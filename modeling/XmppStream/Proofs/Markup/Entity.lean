import Mathlib.Tactic.SplitIfs
import XmppStream.Markup.Entity

/-! Resolving entities undoes escaping, and escaped text holds no character that markup gives a
meaning but the `&` of its entities. -/

namespace XmppStream.Markup

theorem unescapeFrom_other (start : Nat) (seen : List Char) {c : Char} (cs : List Char) (h : c ≠ '&') :
    unescapeFrom start seen (c :: cs) = unescapeFrom (start + c.utf8Size) (c :: seen) cs := by
  rw [unescapeFrom, if_neg h]

theorem unescapeFrom_entity (start : Nat) (seen : List Char) {name : List Char} {x : Char}
    (cs : List Char) (plain : name.all isNameChar) (known : resolve (start + 1) name = .ok x) :
    unescapeFrom start seen ('&' :: (name ++ ';' :: cs)) =
      unescapeFrom (start + utf8Length name + 2) (x :: seen) cs := by
  have ended : isNameChar ';' = false := rfl
  have taken : (name ++ ';' :: cs).takeWhile isNameChar = name := by
    rw [List.takeWhile_append_of_pos (List.all_eq_true.1 plain), List.takeWhile_cons, ended]
    exact List.append_nil name
  have dropped : (name ++ ';' :: cs).dropWhile isNameChar = ';' :: cs := by
    rw [List.dropWhile_append_of_pos (List.all_eq_true.1 plain), List.dropWhile_cons, ended]
    rfl
  rw [unescapeFrom, if_pos rfl]
  split
  · next rest h =>
    rw [dropped] at h
    cases h
    rw [taken]
    dsimp only
    rw [known]
  · next h => exact absurd dropped (h cs)

theorem escapeChar_cases (c : Char) :
    (∃ name, escapeChar c = '&' :: (name ++ [';']) ∧ name.all isNameChar
        ∧ (∀ start, resolve start name = .ok c) ∧ name.all Char.isAlpha)
      ∨ (escapeChar c = [c] ∧ c ∉ ['&', '<', '>', '\'', '"']) := by
  unfold escapeChar
  split
  · exact .inl ⟨['a', 'm', 'p'], rfl, rfl, fun _ => rfl, rfl⟩
  · exact .inl ⟨['l', 't'], rfl, rfl, fun _ => rfl, rfl⟩
  · exact .inl ⟨['g', 't'], rfl, rfl, fun _ => rfl, rfl⟩
  · exact .inl ⟨['a', 'p', 'o', 's'], rfl, rfl, fun _ => rfl, rfl⟩
  · exact .inl ⟨['q', 'u', 'o', 't'], rfl, rfl, fun _ => rfl, rfl⟩
  · next h₁ h₂ h₃ h₄ h₅ =>
    refine .inr ⟨rfl, ?_⟩
    intro h
    simp only [List.mem_cons, List.not_mem_nil, or_false] at h
    rcases h with h | h | h | h | h
    · exact h₁ h
    · exact h₂ h
    · exact h₃ h
    · exact h₄ h
    · exact h₅ h

theorem unescapeFrom_escapeChars (start : Nat) (seen cs : List Char) :
    unescapeFrom start seen (escapeChars cs) = .ok (seen.reverse ++ cs) := by
  induction cs generalizing start seen with
  | nil =>
    rw [escapeChars, List.flatMap_nil, unescapeFrom, List.append_nil]
  | cons c cs ih =>
    have whole : escapeChars (c :: cs) = escapeChar c ++ escapeChars cs := List.flatMap_cons
    rw [whole]
    rcases escapeChar_cases c with ⟨name, written, plain, known, -⟩ | ⟨written, other⟩
    · rw [written, List.cons_append, List.append_assoc, List.singleton_append,
        unescapeFrom_entity start seen _ plain (known _), ih, List.reverse_cons, List.append_assoc,
        List.singleton_append]
    · have h : c ≠ '&' := by
        rintro rfl
        exact other (List.mem_cons_self ..)
      rw [written, List.singleton_append, unescapeFrom_other start seen _ h, ih, List.reverse_cons,
        List.append_assoc, List.singleton_append]

@[simp]
theorem unescape_escapeChars (cs : List Char) : unescape (escapeChars cs) = .ok cs :=
  unescapeFrom_escapeChars 0 [] cs

theorem not_mem_escape {s : String} {c : Char} (h : c ∈ (escape s).toList) :
    c ∉ ['<', '>', '\'', '"'] := by
  rw [escape, String.toList_ofList, escapeChars, List.mem_flatMap] at h
  obtain ⟨d, -, h⟩ := h
  intro special
  -- Entities are spelled with letters.
  rcases escapeChar_cases d with ⟨name, written, -, -, letters⟩ | ⟨written, other⟩
  · rw [written, List.mem_cons, List.mem_append, List.mem_singleton] at h
    rcases h with rfl | h | rfl
    · revert special
      decide
    · have letter := List.all_eq_true.1 letters c h
      simp only [List.mem_cons, List.not_mem_nil, or_false] at special
      rcases special with rfl | rfl | rfl | rfl
      all_goals
        revert letter
        decide
    · revert special
      decide
  · rw [written, List.mem_singleton] at h
    rw [h] at special
    exact other (List.mem_cons_of_mem _ special)

theorem escape_ne_empty {s : String} (h : s ≠ "") : escape s ≠ "" := by
  intro empty
  have chars : escapeChars s.toList = [] := by
    rw [← String.toList_ofList (l := escapeChars s.toList), ← escape, empty]
    rfl
  have back := unescape_escapeChars s.toList
  rw [chars] at back
  cases hs : s.toList with
  | nil => exact h (String.toList_eq_nil_iff.1 hs)
  | cons c cs =>
    rw [hs] at back
    rw [unescape, unescapeFrom] at back
    cases back

end XmppStream.Markup
