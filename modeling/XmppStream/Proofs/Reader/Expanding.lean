import XmppStream.Proofs.Markup.Written
import XmppStream.Proofs.Reader.Descent
import XmppStream.Proofs.Reader.Report

/-! An empty element and the same element with a start tag and an end tag are read alike, at any
place of a stream. -/

namespace XmppStream

namespace Markup

/-- The quotation mark that is open after the first `n` bytes of a tag. -/
def quoteAt (content : Bytes) (n : Nat) : Option UInt8 :=
  (content.take n).foldl Closing.quoteAfter none

/-- The content of a tag that is an element whether or not a slash follows it. -/
structure IsContent (content : Bytes) : Prop where
  nonempty : content ≠ []
  first : ∀ b ∈ content.head?, b ≠ 0x21 ∧ b ≠ 0x3F ∧ b ≠ 0x2F
  last : content.getLast? ≠ some 0x2F
  balanced : quoteAt content content.length = none
  inside : ∀ i < content.length, content[i]? = some 0x3E → quoteAt content i ≠ none
  name : ∀ b ∈ tagName content, !isQuote b

instance (content : Bytes) : Decidable (IsContent content) :=
  decidable_of_iff (content ≠ [] ∧ content.head?.all (fun b => b ≠ 0x21 ∧ b ≠ 0x3F ∧ b ≠ 0x2F)
      ∧ content.getLast? ≠ some 0x2F ∧ quoteAt content content.length = none
      ∧ (∀ i < content.length, content[i]? = some 0x3E → quoteAt content i ≠ none)
      ∧ (tagName content).all (!isQuote ·))
    ⟨fun ⟨nonempty, first, last, balanced, inside, name⟩ =>
        ⟨nonempty, by simpa [Option.all_eq_true] using first, last, balanced, inside,
          List.all_eq_true.1 name⟩,
      fun h =>
        ⟨h.nonempty, by simpa [Option.all_eq_true] using h.first, h.last, h.balanced, h.inside,
          List.all_eq_true.2 h.name⟩⟩

def emptyElement (content : Bytes) : Bytes := 0x3C :: (content ++ [0x2F, 0x3E])

def expanded (content : Bytes) : Bytes :=
  0x3C :: (content ++ 0x3E :: 0x3C :: 0x2F :: (tagName content ++ [0x3E]))

theorem through_tag {quote : Option UInt8} {bs : Bytes}
    (inside : ∀ i < bs.length, bs[i]? = some 0x3E →
      (bs.take i).foldl Closing.quoteAfter quote ≠ none) :
    through Closing.tag quote bs = some (bs.foldl Closing.quoteAfter quote) := by
  induction bs generalizing quote with
  | nil => rfl
  | cons b r ih =>
    have goes : Closing.tag quote b = some (Closing.quoteAfter quote b) := by
      rw [Closing.tag, if_neg]
      rintro ⟨outside, gt⟩
      have first := inside 0 (Nat.zero_lt_succ _) (by simpa [isGt] using gt)
      exact first outside
    rw [through, goes, Option.bind_some, List.foldl_cons]
    exact ih fun i small gt => inside (i + 1) (Nat.succ_lt_succ small) gt

theorem not_gt_of_through {bs : Bytes} {state : Option UInt8}
    (passed : through Closing.tag none bs = some state) (unquoted : ∀ b ∈ bs, !isQuote b) :
    ∀ b ∈ bs, !isGt b := by
  induction bs with
  | nil => nofun
  | cons b r ih =>
    rw [List.forall_mem_cons] at unquoted ⊢
    have plain : isQuote b = false := by simpa using unquoted.1
    cases gt : isGt b with
    | true =>
      have closes : Closing.tag none b = none := by rw [Closing.tag, if_pos ⟨rfl, gt⟩]
      rw [through, closes] at passed
      cases passed
    | false =>
      have goes : Closing.tag none b = some none := tag_outside (by rw [plain, gt]; rfl)
      rw [through, goes, Option.bind_some] at passed
      exact ⟨rfl, ih passed unquoted.2⟩

namespace IsContent

variable {content : Bytes} (isContent : IsContent content)
include isContent

theorem readsAsTag : ReadsAsTag content := by
  refine ⟨?_, isContent.last, ?_⟩
  · obtain ⟨b, r, rfl⟩ := List.exists_cons_of_ne_nil isContent.nonempty
    exact ⟨b, r, rfl, isContent.first b rfl⟩
  · have balanced := isContent.balanced
    rw [quoteAt, List.take_length] at balanced
    rw [through_tag isContent.inside, balanced]

theorem unquoted : ∀ b ∈ tagName content, !(isQuote b || isGt b) := by
  have split : tagName content ++ content.dropWhile (!isBlankByte ·) = content :=
    List.takeWhile_append_dropWhile
  have passed := isContent.readsAsTag.passed
  rw [← split, through_append, Option.bind_eq_some_iff] at passed
  obtain ⟨state, passed, -⟩ := passed
  have free := not_gt_of_through passed isContent.name
  intro b mem
  have unquoted := isContent.name b mem
  have open_ := free b mem
  simp only [Bool.not_eq_true'] at unquoted open_ ⊢
  rw [unquoted, open_]
  rfl

theorem cut_emptyElement (rest : Bytes) :
    lex (emptyElement content ++ rest) =
        ([⟨.empty content, content.length + 3⟩] ++ (lex rest).1, (lex rest).2)
      ∧ uncut (emptyElement content ++ rest) = uncut rest := by
  have element := isContent.readsAsTag.front_empty rest
  have whole : emptyElement content ++ rest = 0x3C :: (content ++ 0x2F :: 0x3E :: rest) := by
    simp [emptyElement]
  rw [whole, lex_of_lexeme element, uncut_of_lexeme element]
  exact ⟨rfl, rfl⟩

theorem cut_expanded (rest : Bytes) :
    lex (expanded content ++ rest) =
        ([⟨.opening content, content.length + 2⟩,
          ⟨.closing (tagName content), (tagName content).length + 3⟩] ++ (lex rest).1, (lex rest).2)
      ∧ uncut (expanded content ++ rest) = uncut rest := by
  have solid : ∀ b ∈ tagName content, !isBlankByte b :=
    fun b mem => List.mem_takeWhile_imp (p := (!isBlankByte ·)) mem
  have opens := isContent.readsAsTag.front_opening
    (0x3C :: 0x2F :: (tagName content ++ 0x3E :: rest))
  have closes := front_endTag isContent.unquoted solid rest
  have whole : expanded content ++ rest =
      0x3C :: (content ++ 0x3E :: 0x3C :: 0x2F :: (tagName content ++ 0x3E :: rest)) := by
    simp [expanded]
  rw [whole, lex_of_lexeme opens, lex_of_lexeme closes, uncut_of_lexeme opens,
    uncut_of_lexeme closes]
  exact ⟨rfl, rfl⟩

end IsContent

end Markup

namespace Reader
open Markup Reference

theorem exists_leave {r : Reader}
    (ends : r.nodes ≠ [] ∨ r.inFraming = true ∨ r.framing = .stream ∧ r.depth = 0) (name : String) :
    ∃ taken, r.leave name = .ok taken := by
  unfold leave
  dsimp only
  split_ifs with inside kind wrapper
  · exact ⟨_, rfl⟩
  · exact ⟨_, rfl⟩
  · exact ⟨_, rfl⟩
  · split
    · next none => exact absurd ends (by simp [none, inside, wrapper])
    · exact ⟨_, rfl⟩
    · exact ⟨_, rfl⟩

theorem closing_of_opening {r inside : Reader} {content : Bytes} {events : List Event}
    (opens : r.opening content = .ok (inside, events)) :
    ∃ taken, inside.closing (tagName content) = .ok taken := by
  obtain ⟨-, -, name, t, decoded, read, moves⟩ := opens_of_opening opens
  have named : t.name = name := by
    have collected := toOption_read name content
    rw [read] at collected
    obtain ⟨attrs, -, collected⟩ := Option.map_eq_some_iff.1 collected.symm
    rw [← collected, name_collect]
  have innermost : inside.names = name :: r.names := by
    rw [← named]
    cases moves <;> rfl
  rw [closing_of_open decoded innermost]
  cases moves with
  | node ns prefixes stanza => exact exists_leave (.inl (List.cons_ne_nil _ _)) name
  | wrapper top stream =>
    have outside : r.depth + 1 - 1 = 0 := top
    exact exists_leave (.inr (.inr ⟨stream, outside⟩)) name
  | frame top webSocket kind => exact exists_leave (.inr (.inl rfl)) name

theorem run_empty (r : Reader) (content : Bytes) (ts : List Token) :
    r.run (.empty content :: ts) = r.run (.opening content :: .closing (tagName content) :: ts) := by
  cases opens : r.opening content with
  | error e =>
    have refused : r.apply (.empty content) = .error e := by rw [apply, emptyTag, opens]
    rw [run_of_error refused, run_of_error (t := .opening content) opens]
  | ok opened =>
    obtain ⟨inside, first⟩ := opened
    obtain ⟨⟨after, second⟩, closes⟩ := closing_of_opening opens
    have both : r.apply (.empty content) = .ok (after, first ++ second) :=
      emptyTag_of_ok opens closes
    rw [run_of_ok both, run_of_ok (t := .opening content) opens,
      run_of_ok (t := .closing (tagName content)) closes, List.append_assoc]

/-- After an input that is read to its end, an empty element shows the same as its start tag and end
tag, whatever follows. -/
theorem report_expanded {framing : Framing} {limit limit' : Nat} {content before after : Bytes}
    (isContent : IsContent content) (mark : ¬ byteOrderMark <+: before)
    (accepted : ((fresh framing limit').push before).1.fault = none)
    (read : ((fresh framing limit').push before).1.kept = [])
    (fits : (before ++ (expanded content ++ after)).length ≤ limit) :
    reportOf ((fresh framing limit).push (before ++ (emptyElement content ++ after))) =
      reportOf ((fresh framing limit).push (before ++ (expanded content ++ after))) := by
  have fits' : (before ++ (emptyElement content ++ after)).length ≤ limit := by
    refine Nat.le_trans ?_ fits
    simp only [emptyElement, expanded, List.length_append, List.length_cons, List.length_nil]
    omega
  have unmarked (element : Bytes) (begins : ∃ r, element = 0x3C :: r) :
      ¬ byteOrderMark <+: before ++ (element ++ after) := by
    obtain ⟨r, rfl⟩ := begins
    exact fun marked => mark (byteOrderMark_before marked)
  have whole : uncut before = [] := by rw [← kept_of_push rfl rfl mark accepted, read]
  -- The tokens are the same but for the element, and there the runs meet.
  have run : (fresh framing limit).run ((lex before).1.map Lexeme.token ++
        .empty content :: (lex after).1.map Lexeme.token) =
      (fresh framing limit).run ((lex before).1.map Lexeme.token ++
        .opening content :: .closing (tagName content) :: (lex after).1.map Lexeme.token) := by
    rw [run_append rfl, run_append rfl, run_empty]
  rw [report_eq_outcome (unmarked (emptyElement content) ⟨_, rfl⟩) fits',
    report_eq_outcome (unmarked (expanded content) ⟨_, rfl⟩) fits,
    outcome_between framing limit whole (isContent.cut_emptyElement after),
    outcome_between framing limit whole (isContent.cut_expanded after)]
  exact congrArg (fun ran => reportOf (settle ran (uncut after) (lex after).2)) run

def stanzaFront : Bytes := Utf8.encode "<s:stream xmlns:s='http://etherx.jabber.org/streams'><a>"

def quotedMark : Bytes := Utf8.encode "b k='>'"

theorem report_expanded_quotedMark :
    IsContent quotedMark ∧ (stanzaFront ++ (expanded quotedMark ++ Utf8.encode "</a>")).length ≤ 80
      ∧ reportOf ((fresh .stream 80).push
          (stanzaFront ++ (emptyElement quotedMark ++ Utf8.encode "</a>"))) =
        reportOf ((fresh .stream 80).push
          (stanzaFront ++ (expanded quotedMark ++ Utf8.encode "</a>"))) := by
  have isContent : IsContent quotedMark := by decide +kernel
  have fits : (stanzaFront ++ (expanded quotedMark ++ Utf8.encode "</a>")).length ≤ 80 := by
    decide +kernel
  have accepted : ((fresh .stream 80).push stanzaFront).1.fault = none := by decide +kernel
  have read : ((fresh .stream 80).push stanzaFront).1.kept = [] := by decide +kernel
  exact ⟨isContent, fits, report_expanded isContent (by decide +kernel) accepted read fits⟩

end Reader
end XmppStream
