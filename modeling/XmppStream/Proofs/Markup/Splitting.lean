import Mathlib.Data.List.TakeWhile
import XmppStream.Proofs.Markup.Entity
import XmppStream.Proofs.Text.Utf8
import XmppStream.Reader.Scope

/-! Text in two parts. Unless the cut lies inside the bytes of a character or inside an entity
reference, the parts decode to the parts of what the whole decodes to, and the whole is at fault
where one of them is. -/

namespace XmppStream

namespace Utf8

/-- The place between two parts of a text lies inside the bytes of a character. -/
def InSequence (before after : Bytes) : Prop :=
  ∃ c left right, left ≠ [] ∧ right ≠ [] ∧ left ++ right = String.utf8EncodeChar c
    ∧ left <:+ before ∧ right <+: after

theorem decode_eq_ok {bs : Bytes} {cs : List Char} :
    decode bs = .ok cs ↔ cs.flatMap String.utf8EncodeChar = bs := by
  constructor
  · intro h
    rw [encode_of_decodeFrom h, List.reverse_nil, List.flatMap_nil, List.nil_append]
  · rintro rfl
    rw [decode, decodeFrom_encodeChars, List.reverse_nil, List.nil_append]

theorem flatMap_split {cs : List Char} {before after : Bytes}
    (whole : cs.flatMap String.utf8EncodeChar = before ++ after)
    (boundary : ¬ InSequence before after) :
    ∃ left right, cs = left ++ right ∧ left.flatMap String.utf8EncodeChar = before
      ∧ right.flatMap String.utf8EncodeChar = after := by
  induction cs generalizing before with
  | nil =>
    obtain ⟨rfl, rfl⟩ := List.append_eq_nil_iff.1 whole.symm
    exact ⟨[], [], rfl, rfl, rfl⟩
  | cons c cs ih =>
    rw [List.flatMap_cons] at whole
    rcases List.append_eq_append_iff.1 whole with ⟨more, rfl, rest⟩ | ⟨right, first, rfl⟩
    · -- The character lies in the first part.
      have later : ¬ InSequence more after := by
        rintro ⟨d, left, right, some, some', bytes, suffix, prefixed⟩
        exact boundary ⟨d, left, right, some, some', bytes,
          suffix.trans (List.suffix_append _ _), prefixed⟩
      obtain ⟨left, right, rfl, bytes, bytes'⟩ := ih rest later
      exact ⟨c :: left, right, rfl, by rw [List.flatMap_cons, bytes], bytes'⟩
    · -- The character reaches beyond the first part, so this ends before it or behind it.
      by_cases none : before = []
      · subst none
        rw [List.nil_append] at first
        exact ⟨[], c :: cs, rfl, rfl, by rw [List.flatMap_cons, first]⟩
      · by_cases none' : right = []
        · subst none'
          rw [List.append_nil] at first
          refine ⟨[c], cs, rfl, by rw [List.flatMap_singleton, first], rfl⟩
        · exact absurd ⟨c, before, right, none, none', first.symm, List.suffix_rfl,
            List.prefix_append _ _⟩ boundary

theorem not_inSequence {c : Char} (ascii : c.toNat < 0x80) (before after : Bytes) :
    ¬ InSequence before (UInt8.ofNat c.toNat :: after) := by
  rintro ⟨d, left, right, some, some', bytes, -, prefixed⟩
  obtain ⟨b, r, rfl⟩ := List.exists_cons_of_ne_nil some'
  obtain ⟨rfl, -⟩ := List.cons_prefix_cons.1 prefixed
  obtain rfl : d = c := by
    apply eq_of_mem_encodeChar ascii
    rw [← bytes]
    exact List.mem_append_right _ (List.mem_cons_self ..)
  have size := congrArg List.length bytes
  have whole : d.utf8Size = 1 := by
    rcases encodeChar_cases d with ⟨-, size, -⟩ | ⟨large, -⟩ | ⟨large, -⟩ | ⟨large, -⟩
    · exact size
    all_goals omega
  rw [String.length_utf8EncodeChar, whole, List.length_append, List.length_cons] at size
  exact some (List.length_eq_zero_iff.1 (by omega))

theorem decode_append {before after : Bytes} (boundary : ¬ InSequence before after)
    {cs : List Char} :
    decode (before ++ after) = .ok cs ↔
      ∃ left right, decode before = .ok left ∧ decode after = .ok right ∧ cs = left ++ right := by
  simp only [decode_eq_ok]
  constructor
  · intro whole
    obtain ⟨left, right, rfl, bytes, bytes'⟩ := flatMap_split whole boundary
    exact ⟨left, right, bytes, bytes', rfl⟩
  · rintro ⟨left, right, rfl, rfl, rfl⟩
    exact List.flatMap_append

end Utf8

namespace Markup

inductive Unescapes : List Char → List Char → Prop where
  | nil : Unescapes [] []
  | other {c : Char} {cs text : List Char} (plain : c ≠ '&') (rest : Unescapes cs text) :
      Unescapes (c :: cs) (c :: text)
  | entity {name : List Char} {c : Char} {cs text : List Char} (plain : name.all isNameChar)
      (known : resolve 0 name = .ok c) (rest : Unescapes cs text) :
      Unescapes ('&' :: (name ++ ';' :: cs)) (c :: text)

theorem resolve_anywhere {start : Nat} {name : List Char} {c : Char}
    (known : resolve start name = .ok c) (start' : Nat) : resolve start' name = .ok c := by
  unfold resolve at known ⊢
  split at known
  all_goals first | exact known | cases known

theorem unescapeFrom_of_unescapes {cs text : List Char} (h : Unescapes cs text) (start : Nat)
    (seen : List Char) : unescapeFrom start seen cs = .ok (seen.reverse ++ text) := by
  induction h generalizing start seen with
  | nil => rw [unescapeFrom, List.append_nil]
  | other plain rest ih =>
    rw [unescapeFrom_other start seen _ plain, ih, List.reverse_cons, List.append_assoc,
      List.singleton_append]
  | entity plain known rest ih =>
    rw [unescapeFrom_entity start seen _ plain (resolve_anywhere known _), ih, List.reverse_cons,
      List.append_assoc, List.singleton_append]

theorem unescapes_of_unescapeFrom {start : Nat} {seen cs text : List Char}
    (h : unescapeFrom start seen cs = .ok text) :
    ∃ more, Unescapes cs more ∧ text = seen.reverse ++ more := by
  fun_induction unescapeFrom start seen cs with
  | case1 start seen =>
    cases h
    exact ⟨[], .nil, (List.append_nil _).symm⟩
  | case2 start seen r rest ended name x known ih =>
    obtain ⟨more, unescapes, rfl⟩ := ih h
    have whole : r = name ++ ';' :: rest := by
      rw [← ended]
      exact List.takeWhile_append_dropWhile.symm
    have plain : name.all isNameChar :=
      List.all_eq_true.2 fun c mem => List.mem_takeWhile_imp mem
    refine ⟨x :: more, ?_, by simp⟩
    rw [whole]
    exact .entity plain (resolve_anywhere known 0) unescapes
  | case3 => cases h
  | case4 => cases h
  | case5 start seen c r plain ih =>
    obtain ⟨more, rest, rfl⟩ := ih h
    exact ⟨c :: more, .other plain rest, by simp⟩

theorem unescape_eq_ok {cs text : List Char} : unescape cs = .ok text ↔ Unescapes cs text := by
  constructor
  · intro h
    obtain ⟨more, unescapes, rfl⟩ := unescapes_of_unescapeFrom h
    exact unescapes
  · exact fun h => unescapeFrom_of_unescapes h 0 []

def IsEntity (name : List Char) : Prop := name.all isNameChar ∧ ∃ c, resolve 0 name = .ok c

/-- The place between two parts of a text lies between the `&` and the `;` of a reference. -/
def InReference (before after : Bytes) : Prop :=
  ∃ left right, IsEntity (left ++ right)
    ∧ ('&' :: left).flatMap String.utf8EncodeChar <:+ before
    ∧ (right ++ [';']).flatMap String.utf8EncodeChar <+: after

theorem not_inReference {after : Bytes} (unended : 0x3B ∉ after) (before : Bytes) :
    ¬ InReference before after := by
  rintro ⟨left, right, -, -, prefixed⟩
  have semicolon : 0x3B ∈ (right ++ [';']).flatMap String.utf8EncodeChar := by
    rw [List.flatMap_append]
    exact List.mem_append_right _ (by decide)
  exact unended (prefixed.mem semicolon)

namespace Unescapes

theorem append {cs ds text more : List Char} (h : Unescapes cs text) (h' : Unescapes ds more) :
    Unescapes (cs ++ ds) (text ++ more) := by
  induction h with
  | nil => exact h'
  | other plain rest ih => exact .other plain ih
  | entity plain known rest ih =>
    rw [List.cons_append, List.append_assoc, List.cons_append]
    exact .entity plain known ih

theorem split {cs ds text : List Char} (h : Unescapes (cs ++ ds) text)
    (outside : ∀ left right, IsEntity (left ++ right) → '&' :: left <:+ cs →
      ¬ right ++ [';'] <+: ds) :
    ∃ first second, Unescapes cs first ∧ Unescapes ds second ∧ text = first ++ second := by
  generalize whole : cs ++ ds = both at h
  induction h generalizing cs with
  | nil =>
    obtain ⟨rfl, rfl⟩ := List.append_eq_nil_iff.1 whole
    exact ⟨[], [], .nil, .nil, rfl⟩
  | @other c es text plain rest ih =>
    cases cs with
    | nil =>
      rw [List.nil_append] at whole
      exact ⟨[], c :: text, .nil, whole ▸ .other plain rest, rfl⟩
    | cons d cs =>
      cases whole
      obtain ⟨first, second, unescapes, unescapes', rfl⟩ := ih (fun left right entity suffix =>
        outside left right entity (suffix.trans (List.suffix_cons _ _))) rfl
      exact ⟨c :: first, second, .other plain unescapes, unescapes', rfl⟩
  | @entity name c es text plain known rest ih =>
    cases cs with
    | nil =>
      rw [List.nil_append] at whole
      exact ⟨[], c :: text, .nil, whole ▸ .entity plain known rest, rfl⟩
    | cons d cs =>
      rw [List.cons_append, List.cons.injEq] at whole
      obtain ⟨rfl, whole⟩ := whole
      rcases List.append_eq_append_iff.1 whole with ⟨right, name_eq, rfl⟩ | ⟨right, rfl, after⟩
      · -- The cut lies in the name.
        subst name_eq
        exact absurd ⟨es, by simp⟩ (outside cs right ⟨plain, c, known⟩ List.suffix_rfl)
      · -- The name lies in the first part, and so does its semicolon, or the cut is between them.
        cases right with
        | nil =>
          rw [List.nil_append] at after
          have entity : IsEntity (name ++ []) := by
            rw [List.append_nil]
            exact ⟨plain, c, known⟩
          refine absurd ⟨es, ?_⟩ (outside name [] entity (by simp))
          rw [← after]
          rfl
        | cons semicolon cs =>
          cases after
          obtain ⟨first, second, unescapes, unescapes', rfl⟩ := ih (fun left right entity suffix =>
            outside left right entity (suffix.trans ⟨'&' :: (name ++ [';']), by simp⟩)) rfl
          exact ⟨c :: first, second, .entity plain known unescapes, unescapes', rfl⟩

end Unescapes

end Markup

open Markup

theorem decodeText_eq_ok {bs : Bytes} {text : String} :
    decodeText bs = .ok text ↔ ∃ cs, Utf8.decode bs = .ok cs ∧ Unescapes cs text.toList := by
  unfold decodeText
  cases Utf8.decode bs with
  | error e => simp
  | ok cs =>
    dsimp only
    cases read : unescape cs with
    | error e =>
      constructor
      · nofun
      · rintro ⟨cs', same, unescapes⟩
        cases same
        rw [unescape_eq_ok.2 unescapes] at read
        cases read
    | ok chars =>
      rw [unescape_eq_ok] at read
      constructor
      · intro same
        cases same
        exact ⟨cs, rfl, by rwa [String.toList_ofList]⟩
      · rintro ⟨cs', same, unescapes⟩
        cases same
        have equal := (unescape_eq_ok.2 read).symm.trans (unescape_eq_ok.2 unescapes)
        cases equal
        exact congrArg Except.ok String.ofList_toList

theorem decodeText_append {before after : Bytes} (boundary : ¬ Utf8.InSequence before after)
    (outside : ¬ InReference before after) {text : String} :
    decodeText (before ++ after) = .ok text ↔
      ∃ first second, decodeText before = .ok first ∧ decodeText after = .ok second
        ∧ text = first ++ second := by
  simp only [decodeText_eq_ok]
  constructor
  · rintro ⟨cs, decoded, unescapes⟩
    obtain ⟨left, right, decodedLeft, decodedRight, rfl⟩ := (Utf8.decode_append boundary).1 decoded
    have outside' : ∀ name name', IsEntity (name ++ name') → '&' :: name <:+ left →
        ¬ name' ++ [';'] <+: right := by
      rintro name name' entity ⟨before', rfl⟩ ⟨after', rfl⟩
      rw [Utf8.decode_eq_ok] at decodedLeft decodedRight
      refine outside ⟨name, name', entity, ?_, ?_⟩
      · rw [← decodedLeft, List.flatMap_append]
        exact List.suffix_append _ _
      · have whole : (name' ++ [';'] ++ after').flatMap String.utf8EncodeChar =
            (name' ++ [';']).flatMap String.utf8EncodeChar ++ after'.flatMap String.utf8EncodeChar :=
          List.flatMap_append
        rw [← decodedRight, whole]
        exact List.prefix_append _ _
    obtain ⟨first, second, unescapesLeft, unescapesRight, whole⟩ := unescapes.split outside'
    refine ⟨String.ofList first, String.ofList second, ⟨left, decodedLeft, ?_⟩,
      ⟨right, decodedRight, ?_⟩, ?_⟩
    · rwa [String.toList_ofList]
    · rwa [String.toList_ofList]
    · rw [← String.toList_inj, String.toList_append, String.toList_ofList, String.toList_ofList, whole]
  · rintro ⟨first, second, ⟨left, decodedLeft, unescapesLeft⟩, ⟨right, decodedRight, unescapesRight⟩,
      rfl⟩
    refine ⟨left ++ right, ?_, ?_⟩
    · exact (Utf8.decode_append boundary).2 ⟨left, right, decodedLeft, decodedRight, rfl⟩
    · rw [String.toList_append]
      exact unescapesLeft.append unescapesRight

end XmppStream
