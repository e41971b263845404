import XmppStream.Markup.Attribute
import XmppStream.Node.Printer
import XmppStream.Proofs.Markup.Cutting
import XmppStream.Proofs.Markup.Entity
import XmppStream.Proofs.Table
import XmppStream.Proofs.Text.Utf8

/-! Written markup. Tags whose names and keys are words are cut where the writer ended them,
whatever their values are, and so is escaped text before a tag. -/

namespace XmppStream.Markup

def wordBreaks : List Char := [' ', '\t', '\r', '\n', '=', '/', '<', '>', '\'', '"']

structure IsWord (s : String) : Prop where
  nonempty : s ≠ ""
  unbroken : ∀ c ∈ wordBreaks, c ∉ s.toList

structure IsTagName (s : String) : Prop extends IsWord s where
  noDeclaration : s.toList.head? ≠ some '!'
  noInstruction : s.toList.head? ≠ some '?'

instance (s : String) : Decidable (IsWord s) :=
  decidable_of_iff (s ≠ "" ∧ wordBreaks.all (· ∉ s.toList))
    ⟨fun h => ⟨h.1, by simpa using h.2⟩, fun h => ⟨h.nonempty, by simpa using h.unbroken⟩⟩

instance (s : String) : Decidable (IsTagName s) :=
  decidable_of_iff (IsWord s ∧ s.toList.head? ≠ some '!' ∧ s.toList.head? ≠ some '?')
    ⟨fun h => ⟨h.1, h.2.1, h.2.2⟩, fun h => ⟨h.toIsWord, h.noDeclaration, h.noInstruction⟩⟩

theorem all_encode {s : String} {p : UInt8 → Bool} (breaks : List Char)
    (ascii : breaks.all (·.toNat < 0x80))
    (special : ∀ b, p b = false → ∃ c ∈ breaks, b = UInt8.ofNat c.toNat)
    (free : ∀ c ∈ breaks, c ∉ s.toList) : ∀ b ∈ Utf8.encode s, p b := by
  intro b hb
  cases h : p b with
  | true => rfl
  | false =>
    obtain ⟨c, hc, rfl⟩ := special b h
    have small := of_decide_eq_true (List.all_eq_true.1 ascii c hc)
    exact absurd (Utf8.mem_of_mem_encode small hb) (free c hc)

namespace IsWord

variable {s : String}

theorem isKeyByte (word : IsWord s) : ∀ b ∈ Utf8.encode s, isKeyByte b := by
  refine all_encode wordBreaks rfl ?_ word.unbroken
  intro b h
  simp only [Markup.isKeyByte, isBlankByte, Bool.and_eq_false_iff, bne_eq_false_iff_eq,
    Bool.not_eq_false', Bool.or_eq_true, decide_eq_true_eq] at h
  rcases h with rfl | ((rfl | rfl) | rfl) | rfl
  · exact ⟨'=', by decide, rfl⟩
  · exact ⟨' ', by decide, rfl⟩
  · exact ⟨'\t', by decide, rfl⟩
  · exact ⟨'\r', by decide, rfl⟩
  · exact ⟨'\n', by decide, rfl⟩

theorem not_blank (word : IsWord s) : ∀ b ∈ Utf8.encode s, !isBlankByte b := by
  intro b hb
  have key := word.isKeyByte b hb
  rw [Markup.isKeyByte, Bool.and_eq_true] at key
  exact key.2

theorem not_closing (word : IsWord s) : ∀ b ∈ Utf8.encode s, !(isQuote b || isGt b || b = 0x2F) := by
  refine all_encode wordBreaks rfl ?_ word.unbroken
  intro b h
  simp only [isQuote, isGt, Bool.not_eq_false', Bool.or_eq_true, decide_eq_true_eq] at h
  rcases h with ((rfl | rfl) | rfl) | rfl
  · exact ⟨'"', by decide, rfl⟩
  · exact ⟨'\'', by decide, rfl⟩
  · exact ⟨'>', by decide, rfl⟩
  · exact ⟨'/', by decide, rfl⟩

theorem append {t : String} (word : IsWord s) (more : IsWord t) : IsWord (s ++ t) := by
  constructor
  · intro empty
    have chars := congrArg String.toList empty
    rw [String.toList_append] at chars
    exact word.nonempty (String.toList_eq_nil_iff.1 (List.append_eq_nil_iff.1 chars).1)
  · intro c hc
    rw [String.toList_append, List.mem_append, not_or]
    exact ⟨word.unbroken c hc, more.unbroken c hc⟩

theorem exists_cons (word : IsWord s) : ∃ b r, Utf8.encode s = b :: r := by
  cases h : Utf8.encode s with
  | nil => exact absurd (Utf8.encode_eq_nil.1 h) word.nonempty
  | cons b r => exact ⟨b, r, rfl⟩

end IsWord

structure ReadsAsKey (s : String) : Prop where
  first : ∃ b r, Utf8.encode s = b :: r ∧ !isBlankByte b ∧ ∀ c ∈ r, isKeyByte c
  unquoted : ∀ b ∈ Utf8.encode s, !(isQuote b || isGt b)

structure ReadsAsName (s : String) : Prop where
  first : ∃ b r, Utf8.encode s = b :: r ∧ b ≠ 0x21 ∧ b ≠ 0x3F ∧ b ≠ 0x2F
  last : (Utf8.encode s).getLast? ≠ some 0x2F
  solid : ∀ b ∈ Utf8.encode s, !isBlankByte b
  unquoted : ∀ b ∈ Utf8.encode s, !(isQuote b || isGt b)

theorem IsWord.unquoted {s : String} (word : IsWord s) :
    ∀ b ∈ Utf8.encode s, !(isQuote b || isGt b) := by
  intro b hb
  have free := word.not_closing b hb
  simp only [Bool.not_eq_true', Bool.or_eq_false_iff] at free ⊢
  exact free.1

theorem IsWord.readsAsKey {s : String} (word : IsWord s) : ReadsAsKey s := by
  obtain ⟨b, r, bytes⟩ := word.exists_cons
  have solid := word.not_blank
  have inner := word.isKeyByte
  rw [bytes, List.forall_mem_cons] at solid inner
  exact ⟨⟨b, r, bytes, solid.1, inner.2⟩, word.unquoted⟩

theorem IsTagName.readsAsName {s : String} (tagName : IsTagName s) : ReadsAsName s := by
  have slash : ∀ b ∈ Utf8.encode s, b ≠ 0x2F := by
    rintro _ mem rfl
    have free := tagName.not_closing 0x2F mem
    revert free
    decide
  obtain ⟨b, r, bytes⟩ := tagName.exists_cons
  refine ⟨⟨b, r, bytes, ?_, ?_, ?_⟩, fun last => slash _ (List.mem_of_getLast? last) rfl,
    tagName.not_blank, tagName.unquoted⟩
  · rintro rfl
    exact tagName.noDeclaration (@Utf8.head_of_encode s '!' r (by decide) bytes)
  · rintro rfl
    exact tagName.noInstruction (@Utf8.head_of_encode s '?' r (by decide) bytes)
  · exact slash b (by rw [bytes]; exact List.mem_cons_self ..)

theorem escape_free (s : String) : ∀ b ∈ Utf8.encode (escape s), !(isQuote b || isGt b || isLt b) := by
  refine all_encode ['<', '>', '\'', '"'] rfl ?_ ?_
  · intro b h
    simp only [isQuote, isGt, isLt, Bool.not_eq_false', Bool.or_eq_true, decide_eq_true_eq] at h
    rcases h with ((rfl | rfl) | rfl) | rfl
    · exact ⟨'"', by decide, rfl⟩
    · exact ⟨'\'', by decide, rfl⟩
    · exact ⟨'>', by decide, rfl⟩
    · exact ⟨'<', by decide, rfl⟩
  · intro c special mem
    exact not_mem_escape mem special

theorem encode_writeAttr (key value : String) :
    Utf8.encode (writeAttr key value) =
      0x20 :: (Utf8.encode key ++ 0x3D :: 0x27 :: (Utf8.encode (escape value) ++ [0x27])) := by
  have blank : Utf8.encode " " = [0x20] := by decide +kernel
  have opening : Utf8.encode "='" = [0x3D, 0x27] := by decide +kernel
  have closing : Utf8.encode "'" = [0x27] := by decide +kernel
  simp only [writeAttr, Utf8.encode_append, blank, opening, closing, List.append_assoc,
    List.cons_append, List.nil_append]

theorem writeAttrs_cons (key value : String) (attrs : Table) :
    writeAttrs ((key, value) :: attrs) = writeAttr key value ++ writeAttrs attrs := by
  rw [writeAttrs, List.map_cons, String.join_cons, ← writeAttrs]

theorem writeAttrs_append (attrs more : Table) :
    writeAttrs (attrs ++ more) = writeAttrs attrs ++ writeAttrs more := by
  rw [writeAttrs, List.map_append, String.join_append, ← writeAttrs, ← writeAttrs]

section
variable {σ : Type} {next : Closing σ}

def through (next : Closing σ) (state : σ) : Bytes → Option σ
  | [] => some state
  | b :: r => (next state b).bind fun state => through next state r

theorem through_append (state : σ) (bs more : Bytes) :
    through next state (bs ++ more) =
      (through next state bs).bind fun state => through next state more := by
  induction bs generalizing state with
  | nil => rfl
  | cons b r ih =>
    rw [List.cons_append, through, through]
    cases next state b with
    | none => rfl
    | some state' => exact ih state'

theorem splitClosing_through {state state' : σ} {bs : Bytes} (h : through next state bs = some state')
    (seen more : Bytes) :
    splitClosing next state seen (bs ++ more) = splitClosing next state' (bs.reverse ++ seen) more := by
  induction bs generalizing state seen with
  | nil =>
    cases h
    rfl
  | cons b r ih =>
    rw [through] at h
    rw [List.cons_append, splitClosing]
    cases hb : next state b with
    | none =>
      rw [hb] at h
      cases h
    | some middle =>
      rw [hb] at h
      dsimp only
      rw [ih h, List.reverse_cons, List.append_assoc, List.singleton_append]

theorem frontClosed_through {state state' : σ} {bs : Bytes} {b : UInt8}
    (passed : through next state bs = some state') (closes : next state' b = none) (token : Naming)
    (around : Nat) (rest : Bytes) :
    frontClosed next state token around (bs ++ b :: rest) =
      match token bs with
      | .error e => .ending e
      | .ok t => .lexeme ⟨t, bs.length + around⟩ rest := by
  have split : splitClosing next state [] (bs ++ b :: rest) = some (bs, rest) := by
    rw [splitClosing_through passed, List.append_nil, splitClosing, closes]
    dsimp only
    rw [List.reverse_reverse]
  cases named : token bs <;> simp only [frontClosed, split, named]

theorem through_same {state : σ} {bs : Bytes} (h : ∀ b ∈ bs, next state b = some state) :
    through next state bs = some state := by
  induction bs with
  | nil => rfl
  | cons b r ih =>
    rw [through, h b (List.mem_cons_self ..)]
    exact ih fun b hb => h b (List.mem_cons_of_mem _ hb)

end

theorem tag_outside {b : UInt8} (h : !(isQuote b || isGt b)) : Closing.tag none b = some none := by
  rw [Bool.not_eq_true', Bool.or_eq_false_iff] at h
  rw [Closing.tag, h.2, if_neg (by simp), Closing.quoteAfter, h.1]
  rfl

theorem tag_inside {q b : UInt8} (h : b ≠ q) : Closing.tag (some q) b = some (some q) := by
  rw [Closing.tag, if_neg (by simp), Closing.quoteAfter, if_neg h]

theorem through_unquoted {bs : Bytes} (unquoted : ∀ b ∈ bs, !(isQuote b || isGt b)) :
    through Closing.tag none bs = some none :=
  through_same fun b hb => tag_outside (unquoted b hb)

/-- Bytes that the reader takes for the content of a tag, with the mark that ends it after them. -/
structure ReadsAsTag (content : Bytes) : Prop where
  first : ∃ b r, content = b :: r ∧ b ≠ 0x21 ∧ b ≠ 0x3F ∧ b ≠ 0x2F
  last : content.getLast? ≠ some 0x2F
  passed : through Closing.tag none content = some none

namespace ReadsAsTag

variable {content : Bytes} (isTag : ReadsAsTag content)
include isTag

theorem front_lt (more : Bytes) :
    front (0x3C :: (content ++ more)) =
      frontClosed Closing.tag none Naming.tag 2 (content ++ more) := by
  obtain ⟨b, r, rfl, declaration, instruction, ending⟩ := isTag.first
  rw [front, if_pos (show isLt 0x3C from rfl), List.cons_append, frontMarkup, if_neg declaration,
    if_neg instruction, if_neg ending]

theorem front_opening (rest : Bytes) :
    front (0x3C :: (content ++ 0x3E :: rest)) =
      .lexeme ⟨.opening content, content.length + 2⟩ rest := by
  rw [isTag.front_lt, frontClosed_through isTag.passed rfl]
  dsimp only [Naming.tag]
  rw [if_neg isTag.last]

theorem front_empty (rest : Bytes) :
    front (0x3C :: (content ++ 0x2F :: 0x3E :: rest)) =
      .lexeme ⟨.empty content, content.length + 3⟩ rest := by
  have slash : through Closing.tag none [0x2F] = some none := rfl
  have whole : through Closing.tag none (content ++ [0x2F]) = some none := by
    rw [through_append, isTag.passed, Option.bind_some, slash]
  rw [isTag.front_lt, List.append_cons, frontClosed_through whole rfl]
  dsimp only [Naming.tag]
  rw [if_pos List.getLast?_concat, List.dropLast_concat, List.length_append]
  rfl

end ReadsAsTag

theorem front_endTag {name : Bytes} (unquoted : ∀ b ∈ name, !(isQuote b || isGt b))
    (solid : ∀ b ∈ name, !isBlankByte b) (rest : Bytes) :
    front (0x3C :: 0x2F :: (name ++ 0x3E :: rest)) =
      .lexeme ⟨.closing name, name.length + 3⟩ rest := by
  have whole : dropEnd isBlankByte name = name := dropEnd_eq_self (by simpa using solid)
  rw [front, if_pos (show isLt 0x3C from rfl), frontMarkup, if_neg (by decide),
    if_neg (by decide), if_pos rfl, frontClosed_through (through_unquoted unquoted) rfl]
  dsimp only [Naming.endTag]
  rw [whole, ite_self]

theorem through_writeAttr {key : String} (isKey : ReadsAsKey key) (value : String) :
    through Closing.tag none (Utf8.encode (writeAttr key value)) = some none := by
  -- Between the quotation marks only another such mark could end the value, and it is escaped.
  have inside : through Closing.tag (some 0x27) (Utf8.encode (escape value)) = some (some 0x27) := by
    apply through_same
    intro b hb
    have free := escape_free value b hb
    apply tag_inside
    rintro rfl
    revert free
    decide
  rw [encode_writeAttr, through, tag_outside (by decide), Option.bind_some, through_append,
    through_unquoted isKey.unquoted, Option.bind_some, through, tag_outside (by decide),
    Option.bind_some, through,
    show Closing.tag none 0x27 = some (some 0x27) from rfl, Option.bind_some, through_append, inside]
  rfl

theorem through_writeAttrs {attrs : Table} (areKeys : ∀ key ∈ attrs.keys, ReadsAsKey key) :
    through Closing.tag none (Utf8.encode (writeAttrs attrs)) = some none := by
  induction attrs with
  | nil => rfl
  | cons entry attrs ih =>
    obtain ⟨key, value⟩ := entry
    rw [Table.keys_cons, List.forall_mem_cons] at areKeys
    rw [writeAttrs_cons, Utf8.encode_append, through_append, through_writeAttr areKeys.1,
      Option.bind_some, ih areKeys.2]

theorem getLast_writeAttrs (attrs : Table) :
    (Utf8.encode (writeAttrs attrs)).getLast? ≠ some 0x2F := by
  induction attrs with
  | nil => nofun
  | cons entry attrs ih =>
    obtain ⟨key, value⟩ := entry
    have quote : (Utf8.encode (writeAttr key value)).getLast? = some 0x27 := by
      rw [encode_writeAttr, List.append_cons, List.append_cons, ← List.append_assoc,
        ← List.cons_append, List.getLast?_concat]
    rw [writeAttrs_cons, Utf8.encode_append, List.getLast?_append, quote]
    intro h
    rcases Option.or_eq_some_iff.1 h with h | ⟨-, h⟩
    · exact ih h
    · cases h

def written (name : String) (attrs : Table) : String := name ++ writeAttrs attrs

section
variable {name : String} {attrs : Table} (isName : ReadsAsName name)
include isName

theorem getLast_written : (Utf8.encode (written name attrs)).getLast? ≠ some 0x2F := by
  rw [written, Utf8.encode_append, List.getLast?_append]
  intro h
  rcases Option.or_eq_some_iff.1 h with h | ⟨-, h⟩
  · exact getLast_writeAttrs attrs h
  · exact isName.last h

variable (areKeys : ∀ key ∈ attrs.keys, ReadsAsKey key)
include areKeys

theorem through_written : through Closing.tag none (Utf8.encode (written name attrs)) = some none := by
  rw [written, Utf8.encode_append, through_append, through_unquoted isName.unquoted,
    Option.bind_some, through_writeAttrs areKeys]

theorem readsAsTag_written : ReadsAsTag (Utf8.encode (written name attrs)) := by
  obtain ⟨b, r, first, marks⟩ := isName.first
  refine ⟨⟨b, r ++ Utf8.encode (writeAttrs attrs), ?_, marks⟩, getLast_written isName,
    through_written isName areKeys⟩
  rw [written, Utf8.encode_append, first, List.cons_append]

end

theorem front_text_lt {raw : Bytes} (inhabited : raw ≠ []) (free : ∀ b ∈ raw, !isLt b)
    (rest : Bytes) :
    front (raw ++ 0x3C :: rest) = .lexeme ⟨.text raw, raw.length⟩ (0x3C :: rest) := by
  have lt : (!isLt 0x3C) = false := rfl
  have taken : (raw ++ 0x3C :: rest).takeWhile (!isLt ·) = raw := by
    rw [List.takeWhile_append_of_pos free, List.takeWhile_cons, lt]
    exact List.append_nil _
  have dropped : (raw ++ 0x3C :: rest).dropWhile (!isLt ·) = 0x3C :: rest := by
    rw [List.dropWhile_append_of_pos free, List.dropWhile_cons, lt]
    rfl
  have begins : front (raw ++ 0x3C :: rest) = frontText (raw ++ 0x3C :: rest) := by
    obtain ⟨b, r, rfl⟩ := List.exists_cons_of_ne_nil inhabited
    have first := free b (List.mem_cons_self ..)
    rw [List.cons_append, front, if_neg (by simpa using first)]
  rw [begins, frontText, taken, dropped]

theorem front_escaped {text : String} (nonempty : text ≠ "") (rest : Bytes) :
    front (Utf8.encode (escape text) ++ 0x3C :: rest) =
      .lexeme ⟨.text (Utf8.encode (escape text)), (Utf8.encode (escape text)).length⟩
        (0x3C :: rest) := by
  refine front_text_lt (mt Utf8.encode_eq_nil.1 (escape_ne_empty nonempty)) ?_ rest
  intro b hb
  have all := escape_free text b hb
  simp only [Bool.not_eq_true', Bool.or_eq_false_iff] at all ⊢
  exact all.2

def BeginsTag (text : String) : Prop := ∃ r, Utf8.encode text = 0x3C :: r

theorem beginsTag_lt (more : String) : BeginsTag ("<" ++ more) := by
  unfold BeginsTag
  rw [Utf8.encode_append]
  exact ⟨_, rfl⟩

theorem BeginsTag.append {text : String} (h : BeginsTag text) (more : String) :
    BeginsTag (text ++ more) := by
  obtain ⟨r, begins⟩ := h
  unfold BeginsTag
  rw [Utf8.encode_append, begins]
  exact ⟨_, rfl⟩

/-- The text is cut into these tokens, whatever follows it. -/
def Lexes (text : String) (ts : List Token) : Prop :=
  ∃ xs, xs.map Lexeme.token = ts ∧ extent xs = (Utf8.encode text).length
    ∧ ∀ rest, lex (Utf8.encode text ++ rest) = (xs ++ (lex rest).1, (lex rest).2)

namespace Lexes

theorem empty : Lexes "" [] := ⟨[], rfl, rfl, fun _ => rfl⟩

theorem append {text more : String} {ts us : List Token} (h : Lexes text ts) (h' : Lexes more us) :
    Lexes (text ++ more) (ts ++ us) := by
  obtain ⟨xs, tokens, extent_xs, cut⟩ := h
  obtain ⟨ys, tokens', extent_ys, cut'⟩ := h'
  refine ⟨xs ++ ys, ?_, ?_, fun rest => ?_⟩
  · rw [List.map_append, tokens, tokens']
  · rw [extent_append, extent_xs, extent_ys, Utf8.encode_append, List.length_append]
  · rw [Utf8.encode_append, List.append_assoc, cut, cut', List.append_assoc]

theorem of_front {text : String} {t : Token}
    (h : ∀ rest, front (Utf8.encode text ++ rest) = .lexeme ⟨t, (Utf8.encode text).length⟩ rest) :
    Lexes text [t] := by
  refine ⟨[⟨t, (Utf8.encode text).length⟩], rfl, ?_, fun rest => ?_⟩
  · rw [extent_cons, extent_nil]
    rfl
  · rw [lex_of_lexeme (h rest)]
    rfl

theorem of_front_nil {text : String} {x : Lexeme} (h : front (Utf8.encode text) = .lexeme x []) :
    Lexes text [x.token] := by
  have size := front_length h
  rw [List.length_nil, Nat.add_zero] at size
  apply of_front
  intro rest
  rw [front_lexeme_append h rest, ← size]
  rfl

section
variable {name : String} {attrs : Table} (isName : ReadsAsName name)
  (areKeys : ∀ key ∈ attrs.keys, ReadsAsKey key)
include isName areKeys

theorem opening :
    Lexes ("<" ++ written name attrs ++ ">") [.opening (Utf8.encode (written name attrs))] := by
  have whole : Utf8.encode ("<" ++ written name attrs ++ ">") =
      0x3C :: (Utf8.encode (written name attrs) ++ [0x3E]) := by
    rw [Utf8.encode_append, Utf8.encode_append]
    rfl
  apply of_front
  intro rest
  rw [whole, List.cons_append, List.append_assoc, List.singleton_append,
    (readsAsTag_written isName areKeys).front_opening, List.length_cons, List.length_append]
  rfl

theorem emptyTag :
    Lexes ("<" ++ written name attrs ++ "/>") [.empty (Utf8.encode (written name attrs))] := by
  have whole : Utf8.encode ("<" ++ written name attrs ++ "/>") =
      0x3C :: (Utf8.encode (written name attrs) ++ [0x2F, 0x3E]) := by
    rw [Utf8.encode_append, Utf8.encode_append]
    rfl
  apply of_front
  intro rest
  rw [whole, List.cons_append, List.append_assoc, List.cons_append, List.singleton_append,
    (readsAsTag_written isName areKeys).front_empty, List.length_cons, List.length_append]
  rfl

end

theorem closing {name : String} (isName : ReadsAsName name) :
    Lexes ("</" ++ name ++ ">") [.closing (Utf8.encode name)] := by
  have whole : Utf8.encode ("</" ++ name ++ ">") = 0x3C :: 0x2F :: (Utf8.encode name ++ [0x3E]) := by
    rw [Utf8.encode_append, Utf8.encode_append]
    rfl
  apply of_front
  intro rest
  rw [whole, List.cons_append, List.cons_append, List.append_assoc, List.singleton_append,
    front_endTag isName.unquoted isName.solid, List.length_cons, List.length_cons, List.length_append]
  rfl

theorem text {raw more : String} (nonempty : raw ≠ "") (begins : BeginsTag more) {ts : List Token}
    (h : Lexes more ts) :
    Lexes (escape raw ++ more) (.text (Utf8.encode (escape raw)) :: ts) := by
  obtain ⟨xs, tokens, extent_xs, cut⟩ := h
  obtain ⟨r, begins⟩ := begins
  refine ⟨⟨.text (Utf8.encode (escape raw)), (Utf8.encode (escape raw)).length⟩ :: xs, ?_, ?_, ?_⟩
  · rw [List.map_cons, tokens]
  · rw [extent_cons, extent_xs, Utf8.encode_append, List.length_append]
  · intro rest
    have here : front (Utf8.encode (escape raw) ++ (Utf8.encode more ++ rest)) =
        .lexeme ⟨.text (Utf8.encode (escape raw)), (Utf8.encode (escape raw)).length⟩
          (Utf8.encode more ++ rest) := by
      rw [begins, List.cons_append, front_escaped nonempty]
    rw [Utf8.encode_append, List.append_assoc, lex_of_lexeme here, cut, List.cons_append]

end Lexes

end XmppStream.Markup
