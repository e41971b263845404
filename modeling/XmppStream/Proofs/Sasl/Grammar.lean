import Mathlib.Data.List.TakeWhile
import XmppStream.Proofs.Sasl.Directives
import XmppStream.Text.Numeral

/-! The grammar of challenges. A challenge is read if and only if it is spelt by the grammar, and it
says what its directives say, the last one of each key. -/

namespace XmppStream
namespace Challenge

/-- A text from behind the opening mark of a quoted value on, the value, and what follows the closing
mark. -/
inductive Quoted : List Char → List Char → List Char → Prop
  | closing {rest : List Char} : Quoted ('"' :: rest) [] rest
  | plain {c : Char} {cs value rest : List Char} : c ≠ '"' → c ≠ '\\' → Quoted cs value rest →
      Quoted (c :: cs) (c :: value) rest
  | escaped {c : Char} {cs value rest : List Char} : Quoted cs value rest →
      Quoted ('\\' :: c :: cs) (c :: value) rest

/-- A text that begins with a value, the value, and what follows it. Without marks the value goes to
the next comma or to the end. -/
inductive Value : List Char → List Char → List Char → Prop
  | quoted {cs value rest : List Char} : Quoted cs value rest → Value ('"' :: cs) value rest
  | bare {c : Char} {cs rest : List Char} : isBlank c = false → c ≠ '"' → ',' ∉ c :: cs → Ends rest →
      Value (c :: cs ++ rest) (trimChars (c :: cs)) rest

inductive Directive : List Char → String × String → List Char → Prop
  | mk {key blanks cs value rest : List Char} : key ≠ [] → (∀ c ∈ key, c ≠ '=' ∧ c ≠ ',') →
      (∀ c ∈ blanks, isBlank c) → Value cs value rest →
      Directive (key ++ '=' :: (blanks ++ cs)) (trim (String.ofList key), String.ofList value) rest

/-- The text of a challenge, and the entries of its directives in order. All separators that stand
before a directive belong to the gap before it. -/
inductive Spells : List Char → Table → Prop
  | gap {gap : List Char} : (∀ c ∈ gap, isSeparator c) → Spells gap []
  | directive {gap cs rest : List Char} {entry : String × String} {entries : Table} :
      (∀ c ∈ gap, isSeparator c) → (∀ c ∈ cs.head?, isSeparator c = false) →
      Directive cs entry rest → Spells rest entries → Spells (gap ++ cs) (entry :: entries)

theorem isBlank_of_not_separator {c : Char} (h : isSeparator c = false) : isBlank c = false := by
  rw [isSeparator, Bool.or_eq_false_iff] at h
  exact h.2

theorem trimChars_ne_nil {c : Char} {cs : List Char} (solid : isBlank c = false) :
    trimChars (c :: cs) ≠ [] := by
  have kept : (c :: cs).dropWhile isBlank = c :: cs := List.dropWhile_cons_of_neg (by simp [solid])
  have stops : dropEnd isBlank (c :: cs) ≠ [] := by
    unfold dropEnd
    rw [Ne, List.reverse_eq_nil_iff, List.dropWhile_eq_nil_iff]
    intro all
    have here := all c (List.mem_reverse.2 (List.mem_cons_self ..))
    rw [solid] at here
    cases here
  rwa [trimChars, kept]

theorem exists_cons_of_trimChars {cs : List Char} (h : trimChars cs ≠ []) : cs ≠ [] := by
  rintro rfl
  exact h rfl

theorem splitQuoted_iff {seen cs value rest : List Char} :
    splitQuoted seen cs = some (value, rest) ↔
      ∃ tail, value = seen.reverse ++ tail ∧ Quoted cs tail rest := by
  constructor
  · intro h
    fun_induction splitQuoted seen cs with
    | case1 => cases h
    | case2 seen r =>
      cases h
      exact ⟨[], (List.append_nil _).symm, .closing⟩
    | case3 => cases h
    | case4 seen c r ih =>
      obtain ⟨tail, rfl, quoted⟩ := ih h
      exact ⟨c :: tail, by simp, .escaped quoted⟩
    | case5 seen c r quote last backslash ih =>
      obtain ⟨tail, rfl, quoted⟩ := ih h
      refine ⟨c :: tail, by simp, .plain quote ?_ quoted⟩
      intro same
      cases r with
      | nil => exact last same rfl
      | cons c' r => exact backslash c' r same rfl
  · rintro ⟨tail, rfl, quoted⟩
    induction quoted generalizing seen with
    | closing => rw [List.append_nil]; rfl
    | @plain c cs value rest quote backslash _ ih =>
      rw [splitQuoted_other seen _ quote backslash, ih, List.reverse_cons, List.append_assoc,
        List.singleton_append]
    | @escaped c cs value rest _ ih =>
      have step : splitQuoted seen ('\\' :: c :: cs) = splitQuoted (c :: seen) cs := rfl
      rw [step, ih, List.reverse_cons, List.append_assoc, List.singleton_append]

theorem Value.front {cs value rest : List Char} (h : Value cs value rest) :
    ∃ c r, cs = c :: r ∧ isBlank c = false := by
  cases h with
  | quoted _ => exact ⟨_, _, rfl, by decide⟩
  | bare solid _ _ _ => exact ⟨_, _, rfl, solid⟩

theorem takeWhile_commas {cs rest : List Char} (free : ',' ∉ cs) (ends : Ends rest) :
    (cs ++ rest).takeWhile (· != ',') = cs ∧ (cs ++ rest).dropWhile (· != ',') = rest := by
  have passed : ∀ c ∈ cs, c != ',' := fun c mem => bne_iff_ne.2 fun same => free (same ▸ mem)
  rw [List.takeWhile_append_of_pos passed, List.dropWhile_append_of_pos passed]
  rcases ends with rfl | ⟨r, rfl⟩
  · exact ⟨List.append_nil _, rfl⟩
  · exact ⟨List.append_nil _, rfl⟩

theorem ends_dropWhile (cs : List Char) : Ends (cs.dropWhile (· != ',')) := by
  cases h : cs.dropWhile (· != ',') with
  | nil => exact .inl rfl
  | cons c r =>
    have stops := List.head?_dropWhile_not (· != ',') cs
    rw [h] at stops
    have comma : c = ',' := by simpa using stops
    exact .inr ⟨r, by rw [comma]⟩

theorem splitValue_iff {key : String} {cs value rest : List Char}
    (solid : ∀ c ∈ cs.head?, isBlank c = false) :
    splitValue key cs = .ok (value, rest) ↔ Value cs value rest := by
  constructor
  · intro h
    rw [splitValue.eq_def] at h
    split at h
    · next r =>
      split at h
      · next split found =>
        cases h
        obtain ⟨tail, rfl, quoted⟩ := splitQuoted_iff.1 found
        exact .quoted quoted
      · cases h
    · next unquoted =>
      dsimp only at h
      split_ifs at h with empty
      cases h
      have whole : cs.takeWhile (· != ',') ++ cs.dropWhile (· != ',') = cs :=
        List.takeWhile_append_dropWhile
      cases before : cs.takeWhile (· != ',') with
      | nil => exact absurd (by rw [before]; rfl) empty
      | cons c r =>
        rw [before] at whole
        have first : c ∈ cs.head? := by rw [← whole]; rfl
        have free : ',' ∉ c :: r := by
          rw [← before]
          intro mem
          have passed := List.mem_takeWhile_imp mem
          simp at passed
        have mark : c ≠ '"' := by
          rintro rfl
          exact unquoted _ whole.symm
        have value := Value.bare (solid c first) mark free (ends_dropWhile cs)
        rwa [whole] at value
  · intro h
    cases h with
    | @quoted cs value rest quoted =>
      have found : splitQuoted [] cs = some (value, rest) :=
        splitQuoted_iff.2 ⟨value, rfl, quoted⟩
      rw [splitValue, found]
    | @bare c cs rest here mark free ends =>
      obtain ⟨before, after⟩ := takeWhile_commas free ends
      rw [splitValue, before, after, if_neg (trimChars_ne_nil here)]
      intro r same
      exact mark (List.cons.inj same).1

theorem isKeyChar_iff {c : Char} : isKeyChar c ↔ c ≠ '=' ∧ c ≠ ',' := by
  rw [isKeyChar, Bool.and_eq_true, bne_iff_ne, bne_iff_ne]

theorem dropWhile_blanks {blanks cs value rest : List Char} (blank : ∀ c ∈ blanks, isBlank c)
    (h : Value cs value rest) : (blanks ++ cs).dropWhile isBlank = cs := by
  obtain ⟨c, r, rfl, solid⟩ := h.front
  rw [List.dropWhile_append_of_pos blank, List.dropWhile_cons_of_neg (by simp [solid])]

theorem splitDirective_iff {cs rest : List Char} {entry : String × String}
    (solid : ∀ c ∈ cs.head?, isSeparator c = false) :
    splitDirective cs = .ok (entry, rest) ↔ Directive cs entry rest := by
  constructor
  · intro h
    have whole : cs.takeWhile isKeyChar ++ cs.dropWhile isKeyChar = cs :=
      List.takeWhile_append_dropWhile
    rw [splitDirective] at h
    split at h
    · next r after =>
      split_ifs at h with unnamed
      split at h
      · cases h
      · next value rest' found =>
        cases h
        have inner : r.takeWhile isBlank ++ r.dropWhile isBlank = r :=
          List.takeWhile_append_dropWhile
        have stops : ∀ c ∈ (r.dropWhile isBlank).head?, isBlank c = false := by
          intro c mem
          have stop := List.head?_dropWhile_not isBlank r
          rw [Option.mem_def.1 mem] at stop
          exact stop
        have keyChars : ∀ c ∈ cs.takeWhile isKeyChar, c ≠ '=' ∧ c ≠ ',' :=
          fun c mem => isKeyChar_iff.1 (List.mem_takeWhile_imp mem)
        have blanks : ∀ c ∈ r.takeWhile isBlank, isBlank c :=
          fun c mem => List.mem_takeWhile_imp mem
        have directive := Directive.mk (exists_cons_of_trimChars unnamed) keyChars blanks
          ((splitValue_iff stops).1 found)
        rw [inner, ← after, whole, trim, String.toList_ofList] at directive
        exact directive
    · cases h
  · -- Conversely the key stops at its equals sign, since none of its characters ends it.
    intro h
    cases h with
    | @mk key blanks cs value rest named keyChars blank spelt =>
      have passed : ∀ c ∈ key, isKeyChar c := fun c mem => isKeyChar_iff.2 (keyChars c mem)
      have before : (key ++ '=' :: (blanks ++ cs)).takeWhile isKeyChar = key := by
        rw [List.takeWhile_append_of_pos passed]
        exact List.append_nil _
      have after : (key ++ '=' :: (blanks ++ cs)).dropWhile isKeyChar = '=' :: (blanks ++ cs) := by
        rw [List.dropWhile_append_of_pos passed]
        rfl
      have inhabited : trimChars key ≠ [] := by
        cases key with
        | nil => exact absurd rfl named
        | cons c r => exact trimChars_ne_nil (isBlank_of_not_separator (solid c rfl))
      have found : splitValue (String.ofList (trimChars key)) cs = .ok (value, rest) := by
        obtain ⟨c, r, rfl, here⟩ := spelt.front
        exact (splitValue_iff (by rintro _ ⟨⟩; exact here)).2 spelt
      rw [splitDirective, before, after]
      show (if trimChars key = [] then _ else _) = _
      rw [if_neg inhabited, dropWhile_blanks blank spelt, found, trim, String.toList_ofList]

def tabulate (found entries : Table) : Table :=
  entries.foldl (fun t (key, value) => t.put key value) found

theorem parseOnto_of_spells {cs : List Char} {entries : Table} (h : Spells cs entries)
    (found : Table) : parseOnto found cs = .ok (tabulate found entries) := by
  induction h generalizing found with
  | gap separators => exact parseOnto_of_blank found (List.dropWhile_eq_nil_iff.2 separators)
  | @directive gap cs rest entry entries separators solid directive _ ih =>
    have split := (splitDirective_iff solid).2 directive
    cases cs with
    | nil => cases split
    | cons c r =>
      have skipped : (gap ++ c :: r).dropWhile isSeparator = c :: r := by
        rw [List.dropWhile_append_of_pos separators,
          List.dropWhile_cons_of_neg (by simp [solid c rfl])]
      rw [parseOnto_of_split found skipped split, ih]
      rfl

theorem spells_of_parseOnto {found t : Table} {cs : List Char} (h : parseOnto found cs = .ok t) :
    ∃ entries, Spells cs entries := by
  fun_induction parseOnto found cs with
  | case1 found cs skipped => exact ⟨[], .gap (List.dropWhile_eq_nil_iff.1 skipped)⟩
  | case2 => cases h
  | case3 found cs c r skipped key value rest split ih =>
    obtain ⟨entries, spelt⟩ := ih h
    -- The separators in front are the gap, and none is left where the directive begins.
    have whole : cs.takeWhile isSeparator ++ cs.dropWhile isSeparator = cs :=
      List.takeWhile_append_dropWhile
    have stops : ∀ c' ∈ (c :: r).head?, isSeparator c' = false := by
      intro c' mem
      have stop := List.head?_dropWhile_not isSeparator cs
      rw [skipped, Option.mem_def.1 mem] at stop
      exact stop
    have separators : ∀ c ∈ cs.takeWhile isSeparator, isSeparator c :=
      fun c mem => List.mem_takeWhile_imp mem
    have whole' := Spells.directive separators stops ((splitDirective_iff stops).1 split) spelt
    rw [← skipped, whole] at whole'
    exact ⟨_, whole'⟩

theorem get?_tabulate (found entries : Table) (key : String) :
    (tabulate found entries).get? key = (Table.get? entries.reverse key).or (found.get? key) := by
  induction entries generalizing found with
  | nil => rfl
  | cons entry entries ih =>
    obtain ⟨k, v⟩ := entry
    have step : tabulate found ((k, v) :: entries) = tabulate (found.put k v) entries := rfl
    rw [step, ih, List.reverse_cons, Table.get?_append, Table.get?_put, Table.get?_cons,
      Table.get?_nil, Option.or_assoc]
    split_ifs <;> rfl

theorem isBlank_of_digit? {c : Char} (h : (Numeral.digit? 16 c).isSome) : isBlank c = false := by
  have range : (48 ≤ c.toNat ∧ c.toNat ≤ 57) ∨ (97 ≤ c.toNat ∧ c.toNat ≤ 102)
      ∨ 65 ≤ c.toNat ∧ c.toNat ≤ 70 := by
    by_contra outside
    simp only [not_or, not_and] at outside
    have numeral : ¬ ('0' ≤ c ∧ c ≤ '9') := fun within => outside.1 within.1 within.2
    have small : ¬ ('a' ≤ c ∧ c ≤ 'f') := fun within => outside.2.1 within.1 within.2
    have large : ¬ ('A' ≤ c ∧ c ≤ 'F') := fun within => outside.2.2 within.1 within.2
    have value : Numeral.digit? 16 c = none := by
      unfold Numeral.digit?
      simp only [if_neg numeral, if_neg small, if_neg large]
      rfl
    rw [value] at h
    cases h
  unfold isBlank
  simp only [Bool.or_eq_false_iff, Bool.and_eq_false_iff, decide_eq_false_iff_not]
  omega

def IsHex (s : String) : Prop := s ≠ "" ∧ ∀ c ∈ s.toList, (Numeral.digit? 16 c).isSome

theorem IsHex.isBare {s : String} (h : IsHex s) : IsBare s where
  nonempty := h.1
  solid := by
    intro c mem
    have digit := h.2 c mem
    refine ⟨?_, ?_, ?_⟩
    · rintro rfl
      revert digit
      decide
    · rintro rfl
      revert digit
      decide
    · exact isBlank_of_digit? digit

/-- A challenge is read if and only if the grammar spells it. What it says under a key is what its
last directive of that key says, and under other keys it says nothing. A reply to a challenge is read
as what it was made of. -/
theorem parse_iff_spells :
    (∀ s, (∃ t, parse s = .ok t) ↔ ∃ entries, Spells s.toList entries)
      ∧ (∀ s entries, Spells s.toList entries → ∃ t, parse s = .ok t
        ∧ ∀ key, t.get? key = Table.get? entries.reverse key)
      ∧ ∀ (d : Digest) (response : String), IsHex response →
        parse (d.reply response) = .ok (d.directives response) := by
  have reads (s : String) (entries : Table) (spelt : Spells s.toList entries) :
      ∃ t, parse s = .ok t ∧ ∀ key, t.get? key = Table.get? entries.reverse key := by
    refine ⟨_, parseOnto_of_spells spelt [], fun key => ?_⟩
    rw [get?_tabulate, Table.get?_nil, Option.or_none]
  refine ⟨fun s => ⟨?_, ?_⟩, reads, fun d response hex => d.parse_reply hex.isBare⟩
  · rintro ⟨t, read⟩
    exact spells_of_parseOnto read
  · rintro ⟨entries, spelt⟩
    obtain ⟨t, read, -⟩ := reads s entries spelt
    exact ⟨t, read⟩

def sample : String := ", a = \"x,\\\"\"b= c = d ,a=e"

theorem spells_sample : Spells sample.toList [("a", "x,\""), ("b", "c = d"), ("a", "e")] := by
  have marked : Value "\"x,\\\"\"b= c = d ,a=e".toList "x,\"".toList "b= c = d ,a=e".toList :=
    .quoted (.plain (by decide) (by decide) (.plain (by decide) (by decide) (.escaped .closing)))
  have bare : Value "c = d ,a=e".toList "c = d".toList ",a=e".toList :=
    @Value.bare 'c' " = d ".toList _ rfl (by decide) (by decide) (.inr ⟨_, rfl⟩)
  have last : Value "e".toList "e".toList [] :=
    @Value.bare 'e' [] _ rfl (by decide) (by decide) (.inl rfl)
  have first : Directive "a = \"x,\\\"\"b= c = d ,a=e".toList ("a", "x,\"")
      "b= c = d ,a=e".toList :=
    @Directive.mk ['a', ' '] [' '] _ _ _ (by decide) (by simp) (by simp [isBlank]) marked
  have second : Directive "b= c = d ,a=e".toList ("b", "c = d") ",a=e".toList :=
    @Directive.mk ['b'] [' '] _ _ _ (by decide) (by simp) (by simp [isBlank]) bare
  have third : Directive "a=e".toList ("a", "e") [] :=
    @Directive.mk ['a'] [] _ _ _ (by decide) (by simp) (by simp) last
  have letter {c : Char} (h : isSeparator c = false) (cs : List Char) :
      ∀ c' ∈ (c :: cs).head?, isSeparator c' = false := by
    intro c' mem
    cases mem
    exact h
  exact @Spells.directive [',', ' '] _ _ _ _ (by simp [isSeparator, isBlank]) (letter rfl _) first
    (@Spells.directive [] _ _ _ _ (by simp) (letter rfl _) second
      (@Spells.directive [','] _ _ _ _ (by simp [isSeparator]) (letter rfl _) third
        (.gap (by simp))))

def sampleDigest : Digest where
  username := "u\""
  realm := ""
  password := "p"
  nonce := "n,\\"
  clientNonce := "c"
  uri := "xmpp/h"

theorem isHex_sample : IsHex "0aF9" := by
  have digits : "0aF9".toList.all fun c => (Numeral.digit? 16 c).isSome := by decide
  exact ⟨by decide, List.all_eq_true.1 digits⟩

theorem parse_iff_spells_sample :
    Spells sample.toList [("a", "x,\""), ("b", "c = d"), ("a", "e")]
      ∧ (∃ t, parse sample = .ok t ∧ t.get? "a" = some "e" ∧ t.get? "b" = some "c = d"
        ∧ t.get? "c" = none)
      ∧ IsHex "0aF9"
      ∧ parse (sampleDigest.reply "0aF9") = .ok (sampleDigest.directives "0aF9") := by
  obtain ⟨-, reads, replies⟩ := parse_iff_spells
  obtain ⟨t, read, under⟩ := reads sample _ spells_sample
  refine ⟨spells_sample, ⟨t, read, ?_, ?_, ?_⟩, isHex_sample, replies _ _ isHex_sample⟩
  · rw [under]
    decide
  · rw [under]
    decide
  · rw [under]
    decide

end Challenge
end XmppStream
