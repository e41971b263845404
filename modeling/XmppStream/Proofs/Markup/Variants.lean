import Mathlib.Data.List.Induction
import XmppStream.Proofs.Markup.Splitting
import XmppStream.Proofs.Markup.Written

/-! Inputs that say the same. Comments, instructions and document type declarations can stand
anywhere between the tags of an input and in the text there, and a marked section can stand for
escaped text. -/

namespace XmppStream.Markup

/-- A whole comment, instruction or document type declaration. -/
def IsIgnored (markup : Bytes) : Prop := front markup = .lexeme ⟨.ignored, markup.length⟩ []

instance (markup : Bytes) : Decidable (IsIgnored markup) := inferInstanceAs (Decidable (_ = _))

theorem replicate_suffix_concat {byte : UInt8} {count : Nat} {bs : Bytes}
    (h : List.replicate count byte <:+ bs) (b : UInt8) :
    List.replicate (if b = byte then count + 1 else 0) byte <:+ bs ++ [b] := by
  split_ifs with same
  · subst same
    rw [List.replicate_succ']
    obtain ⟨before, rfl⟩ := h
    exact ⟨before, (List.append_assoc _ _ _).symm⟩
  · exact List.nil_suffix

theorem pair_suffix_of_replicate {byte : UInt8} {count : Nat} {bs : Bytes}
    (h : List.replicate count byte <:+ bs) (many : 2 ≤ count) : [byte, byte] <:+ bs := by
  obtain ⟨more, rfl⟩ := Nat.exists_eq_add_of_le' many
  have last : List.replicate (more + 2) byte = List.replicate more byte ++ [byte, byte] :=
    List.replicate_append_replicate.symm
  exact (List.suffix_append _ _).trans (last ▸ h)

theorem through_marked {bs : Bytes} (plain : ¬ [0x5D, 0x5D, 0x3E] <:+: bs) :
    ∃ brackets, through Closing.marked 0 bs = some brackets
      ∧ List.replicate brackets 0x5D <:+ bs := by
  induction bs using List.reverseRecOn with
  | nil => exact ⟨0, rfl, List.nil_suffix⟩
  | append_singleton bs b ih =>
    obtain ⟨brackets, passed, ends⟩ := ih (mt (·.trans (List.infix_append' [] bs [b])) plain)
    have goes : ¬ (isGt b ∧ 2 ≤ brackets) := by
      rintro ⟨gt, many⟩
      obtain rfl : b = 0x3E := by simpa [isGt] using gt
      obtain ⟨before, rfl⟩ := pair_suffix_of_replicate ends many
      exact plain ⟨before, [], by simp⟩
    refine ⟨_, ?_, replicate_suffix_concat ends b⟩
    rw [through_append, passed, Option.bind_some, through, Closing.marked, if_neg goes]
    rfl

theorem through_comment {bs : Bytes} (plain : ¬ [0x2D, 0x2D, 0x3E] <:+: bs) :
    ∃ dashes, through Closing.comment (1, 0) (0x2D :: 0x2D :: bs) = some (bs.length + 3, dashes)
      ∧ List.replicate dashes 0x2D <:+ 0x2D :: 0x2D :: bs := by
  induction bs using List.reverseRecOn with
  | nil => exact ⟨2, rfl, List.suffix_rfl⟩
  | append_singleton bs b ih =>
    obtain ⟨dashes, passed, ends⟩ := ih (mt (·.trans (List.infix_append' [] bs [b])) plain)
    have goes : ¬ (isGt b ∧ 2 ≤ dashes ∧ 5 ≤ bs.length + 3) := by
      -- The dashes that open the comment are counted too, but it is then too short to be closed.
      rintro ⟨gt, many, long⟩
      obtain rfl : b = 0x3E := by simpa [isGt] using gt
      obtain ⟨before, rfl⟩ : [0x2D, 0x2D] <:+ bs :=
        List.suffix_of_suffix_length_le (pair_suffix_of_replicate ends many)
          (List.suffix_append [0x2D, 0x2D] bs) (Nat.le_of_add_le_add_right (b := 3) long)
      exact plain ⟨before, [], by simp⟩
    refine ⟨_, ?_, replicate_suffix_concat ends b⟩
    rw [← List.cons_append, ← List.cons_append, through_append, passed, Option.bind_some, through,
      Closing.comment, if_neg goes, List.length_append, Nat.add_right_comm]
    rfl

theorem through_instruction {bs : Bytes} (plain : ¬ [0x3F, 0x3E] <:+: 0x3F :: bs) :
    ∃ last, through Closing.instruction 0x3F bs = some last ∧ [last] <:+ 0x3F :: bs := by
  induction bs using List.reverseRecOn with
  | nil => exact ⟨0x3F, rfl, List.suffix_rfl⟩
  | append_singleton bs b ih =>
    obtain ⟨last, passed, ends⟩ := ih (mt (·.trans (List.infix_append' [] (0x3F :: bs) [b])) plain)
    have goes : ¬ (isGt b ∧ last = 0x3F) := by
      rintro ⟨gt, rfl⟩
      obtain rfl : b = 0x3E := by simpa [isGt] using gt
      obtain ⟨before, whole⟩ := ends
      refine plain ⟨before, [], ?_⟩
      rw [← List.cons_append, ← whole]
      simp
    refine ⟨b, ?_, List.suffix_append (0x3F :: bs) [b]⟩
    rw [through_append, passed, Option.bind_some, through, Closing.instruction, if_neg goes]
    rfl

theorem isIgnored_of_closed {σ : Type} {next : Closing σ} {state state' : σ} {token : Naming}
    {content : Bytes} {b : UInt8} (opening : Bytes)
    (passed : through next state content = some state') (closes : next state' b = none)
    (named : token content = .ok .ignored)
    (begins : front (opening ++ (content ++ [b])) =
      frontClosed next state token (opening.length + 1) (content ++ [b])) :
    IsIgnored (opening ++ (content ++ [b])) := by
  unfold IsIgnored
  rw [begins, frontClosed_through passed closes, named]
  simp [Nat.add_left_comm]

theorem isIgnored_comment {bs : Bytes} (plain : ¬ Utf8.encode "-->" <:+: bs) :
    IsIgnored (Utf8.encode "<!--" ++ bs ++ Utf8.encode "-->") := by
  have opening : Utf8.encode "<!--" = [0x3C, 0x21, 0x2D, 0x2D] := by decide +kernel
  have closing : Utf8.encode "-->" = [0x2D, 0x2D, 0x3E] := by decide +kernel
  rw [closing] at plain
  obtain ⟨dashes, passed, -⟩ := through_comment plain
  have passed' : through Closing.comment (1, 0) (0x2D :: 0x2D :: bs ++ [0x2D, 0x2D]) =
      some (bs.length + 5, dashes + 2) := by
    rw [through_append, passed]
    rfl
  have closes : Closing.comment (bs.length + 5, dashes + 2) 0x3E = none := by
    rw [Closing.comment, if_pos ⟨rfl, Nat.le_add_left 2 dashes, Nat.le_add_left 5 bs.length⟩]
  have whole := isIgnored_of_closed [0x3C, 0x21] passed' closes rfl rfl
  simpa [opening, closing] using whole

theorem isIgnored_instruction {bs : Bytes} (plain : ¬ Utf8.encode "?>" <:+: 0x3F :: bs) :
    IsIgnored (Utf8.encode "<?" ++ bs ++ Utf8.encode "?>") := by
  have opening : Utf8.encode "<?" = [0x3C, 0x3F] := by decide +kernel
  have closing : Utf8.encode "?>" = [0x3F, 0x3E] := by decide +kernel
  rw [closing] at plain
  obtain ⟨last, passed, -⟩ := through_instruction plain
  have passed' : through Closing.instruction 0x3F (bs ++ [0x3F]) = some 0x3F := by
    rw [through_append, passed]
    rfl
  have named : Naming.instruction (bs ++ [0x3F]) = .ok .ignored := by
    rw [Naming.instruction, if_neg (List.append_ne_nil_of_right_ne_nil bs (List.cons_ne_nil _ _))]
  have whole := isIgnored_of_closed [0x3C, 0x3F] (b := 0x3E) passed' rfl named rfl
  simpa [opening, closing] using whole

theorem isIgnored_doctype {bs : Bytes} (closed : through Closing.doctype 0 bs = some 0)
    (named : ¬ bs.all isBlankByte) :
    IsIgnored (Utf8.encode "<!DOCTYPE" ++ bs ++ Utf8.encode ">") := by
  have opening : Utf8.encode "<!DOCTYPE" = 0x3C :: 0x21 :: Naming.doctypeMark := by decide +kernel
  have closing : Utf8.encode ">" = [0x3E] := by decide +kernel
  have passed : through Closing.doctype 0 (Naming.doctypeMark ++ bs) = some 0 := by
    rw [through_append, show through Closing.doctype 0 Naming.doctypeMark = some 0 from rfl,
      Option.bind_some, closed]
  have marked : Naming.doctypeMark.isPrefixOf ((Naming.doctypeMark ++ bs).map Naming.upperByte) :=
    rfl
  have named' : Naming.doctype (Naming.doctypeMark ++ bs) = .ok .ignored := by
    have inner : (Naming.doctypeMark ++ bs).drop 7 = bs := rfl
    rw [Naming.doctype, if_pos marked, inner, if_neg named]
  have whole := isIgnored_of_closed [0x3C, 0x21] (b := 0x3E) passed rfl named' rfl
  simpa [opening, closing] using whole

def Cut (part : Bytes) (xs : List Lexeme) : Prop :=
  ∀ more, lex (part ++ 0x3C :: more) = (xs ++ (lex (0x3C :: more)).1, (lex (0x3C :: more)).2)
    ∧ uncut (part ++ 0x3C :: more) = uncut (0x3C :: more)

def textLexemes (raw : Bytes) : List Lexeme := if raw = [] then [] else [⟨.text raw, raw.length⟩]

theorem Cut.of_front {part : Bytes} {x : Lexeme}
    (h : ∀ more, front (part ++ 0x3C :: more) = .lexeme x (0x3C :: more)) : Cut part [x] := by
  intro more
  rw [lex_of_lexeme (h more), uncut_of_lexeme (h more)]
  exact ⟨rfl, rfl⟩

theorem cut_text {raw : Bytes} (free : ∀ b ∈ raw, !isLt b) : Cut raw (textLexemes raw) := by
  unfold textLexemes
  split_ifs with none
  · subst none
    exact fun more => ⟨rfl, rfl⟩
  · exact .of_front fun more => front_text_lt none free more

theorem IsIgnored.exists_lt {markup : Bytes} (ignored : IsIgnored markup) :
    ∃ r, markup = 0x3C :: r := by
  unfold IsIgnored at ignored
  cases markup with
  | nil => cases ignored
  | cons b r =>
    rw [front] at ignored
    split_ifs at ignored with lt
    · obtain rfl : b = 0x3C := by simpa [isLt] using lt
      exact ⟨r, rfl⟩
    · rw [frontText] at ignored
      split at ignored <;> cases ignored

theorem cut_ignored {left markup right : Bytes} (ignored : IsIgnored markup)
    (free : ∀ b ∈ left, !isLt b) (free' : ∀ b ∈ right, !isLt b) :
    Cut (left ++ (markup ++ right))
      (textLexemes left ++ (⟨.ignored, markup.length⟩ :: textLexemes right)) := by
  intro more
  obtain ⟨r, begins⟩ := ignored.exists_lt
  have first := front_lexeme_append ignored (right ++ 0x3C :: more)
  rw [List.nil_append] at first
  -- The text on the left goes up to the mark that opens what is ignored.
  obtain ⟨tokens, left'⟩ := cut_text free (r ++ (right ++ 0x3C :: more))
  obtain ⟨tokens', left''⟩ := cut_text free' more
  rw [← List.cons_append, ← begins] at tokens left'
  have whole : left ++ (markup ++ right) ++ 0x3C :: more =
      left ++ (markup ++ (right ++ 0x3C :: more)) := by simp
  rw [whole, tokens, left', lex_of_lexeme first, uncut_of_lexeme first, tokens', left'']
  exact ⟨by simp, rfl⟩

theorem front_marked {text : String} (plain : ¬ Utf8.encode "]]>" <:+: Utf8.encode text)
    (rest : Bytes) :
    front (Utf8.encode ("<![CDATA[" ++ text ++ "]]>") ++ rest) =
      .lexeme ⟨.cdata (Utf8.encode text), (Utf8.encode ("<![CDATA[" ++ text ++ "]]>")).length⟩
        rest := by
  have opening : Utf8.encode "<![CDATA[" = 0x3C :: 0x21 :: Naming.cdataMark := by decide +kernel
  have closing : Utf8.encode "]]>" = [0x5D, 0x5D, 0x3E] := by decide +kernel
  have begins (r : Bytes) : front (0x3C :: 0x21 :: (Naming.cdataMark ++ r)) =
      frontClosed Closing.marked 0 Naming.marked 3 (Naming.cdataMark ++ r) := rfl
  rw [closing] at plain
  obtain ⟨brackets, passed, -⟩ := through_marked plain
  have passed' : through Closing.marked 0 (Naming.cdataMark ++ (Utf8.encode text ++ [0x5D, 0x5D])) =
      some (brackets + 2) := by
    rw [through_append, show through Closing.marked 0 Naming.cdataMark = some 0 from rfl,
      Option.bind_some, through_append, passed]
    rfl
  have closes : Closing.marked (brackets + 2) 0x3E = none := by
    rw [Closing.marked, if_pos ⟨rfl, Nat.le_add_left 2 brackets⟩]
  have named : Naming.marked (Naming.cdataMark ++ (Utf8.encode text ++ [0x5D, 0x5D])) =
      .ok (.cdata (Utf8.encode text)) := by
    have marked : Naming.cdataMark.isPrefixOf
        (Naming.cdataMark ++ (Utf8.encode text ++ [0x5D, 0x5D])) := rfl
    have inner : (Naming.cdataMark ++ (Utf8.encode text ++ [0x5D, 0x5D])).drop 7 =
        Utf8.encode text ++ [0x5D] ++ [0x5D] := by
      rw [List.append_assoc]
      rfl
    rw [Naming.marked, if_pos marked, inner, List.dropLast_concat, List.dropLast_concat]
  have ended := frontClosed_through passed' closes Naming.marked 3 rest
  rw [named, List.append_assoc, ← begins] at ended
  rw [Utf8.encode_append, Utf8.encode_append, opening, closing]
  simpa [Nat.add_assoc] using ended

inductive Edit : Bytes → Bytes → Prop where
  /-- Markup that is ignored stands in front of the tag, or in the text before it. -/
  | ignored {left right markup : Bytes} (free : ∀ b ∈ left ++ right, !isLt b)
      (boundary : ¬ Utf8.InSequence left right) (outside : ¬ InReference left right)
      (ignored : IsIgnored markup) : Edit (left ++ right) (left ++ (markup ++ right))
  /-- A marked section holds what escaped text says. -/
  | marked {text : String} (nonempty : text ≠ "")
      (plain : ¬ Utf8.encode "]]>" <:+: Utf8.encode text) :
      Edit (Utf8.encode ("<![CDATA[" ++ text ++ "]]>")) (Utf8.encode (escape text))

/-- The same input but for an edit between the end of a token and the mark that opens the next
tag. -/
inductive Varies : Bytes → Bytes → Prop where
  | edit {before part part' : Bytes} (whole : (lex before).2 = .text []) (edit : Edit part part')
      (more : Bytes) : Varies (before ++ (part ++ 0x3C :: more)) (before ++ (part' ++ 0x3C :: more))

end XmppStream.Markup
