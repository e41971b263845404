import Mathlib.Data.List.Forall2
import XmppStream.Proofs.Table
import XmppStream.Sasl.Challenge
import XmppStream.Sasl.Digest

/-! Directives are read as they were written: quoting keeps every character of a value, and digests
need no quotes. -/

namespace XmppStream
namespace Challenge

def Ends (rest : List Char) : Prop := rest = [] ∨ ∃ r, rest = ',' :: r

structure IsKey (key : String) : Prop where
  nonempty : key ≠ ""
  solid : ∀ c ∈ key.toList, isKeyChar c ∧ isSeparator c = false

structure IsBare (value : String) : Prop where
  nonempty : value ≠ ""
  solid : ∀ c ∈ value.toList, c ≠ ',' ∧ c ≠ '"' ∧ isBlank c = false

instance (key : String) : Decidable (IsKey key) :=
  decidable_of_iff (key ≠ "" ∧ key.toList.all fun c => isKeyChar c ∧ isSeparator c = false) <| by
    simp only [List.all_eq_true, decide_eq_true_eq]
    exact ⟨fun h => ⟨h.1, h.2⟩, fun h => ⟨h.nonempty, h.solid⟩⟩

instance (value : String) : Decidable (IsBare value) :=
  decidable_of_iff
    (value ≠ "" ∧ value.toList.all fun c => c ≠ ',' ∧ c ≠ '"' ∧ isBlank c = false) <| by
    simp only [List.all_eq_true, decide_eq_true_eq]
    exact ⟨fun h => ⟨h.1, h.2⟩, fun h => ⟨h.nonempty, h.solid⟩⟩

/-- The text of a directive, which is read up to its end whatever follows. -/
structure Reads (cs : List Char) (entry : String × String) : Prop where
  begins : ∃ c r, cs = c :: r ∧ isSeparator c = false
  split : ∀ rest, Ends rest → splitDirective (cs ++ rest) = .ok (entry, rest)

def following (css : List (List Char)) : List Char := css.flatMap (',' :: ·)

theorem splitQuoted_other (seen : List Char) {c : Char} (r : List Char) (quote : c ≠ '"')
    (backslash : c ≠ '\\') : splitQuoted seen (c :: r) = splitQuoted (c :: seen) r := by
  rw [splitQuoted]
  · exact fun same => quote same
  · exact fun same _ => backslash same
  · exact fun _ _ same => absurd same backslash

theorem splitQuoted_quoteChars (seen cs rest : List Char) :
    splitQuoted seen (Digest.quoteChars cs ++ '"' :: rest) = some (seen.reverse ++ cs, rest) := by
  induction cs generalizing seen with
  | nil => rw [List.append_nil]; rfl
  | cons c cs ih =>
    have more : seen.reverse ++ c :: cs = (c :: seen).reverse ++ cs := by simp
    rw [more, ← ih (c :: seen)]
    by_cases marked : c = '"' ∨ c = '\\'
    · have escaped : Digest.quoteChars (c :: cs) = '\\' :: c :: Digest.quoteChars cs := by
        rw [Digest.quoteChars, List.flatMap_cons, if_pos marked]
        rfl
      rw [escaped]
      rfl
    · have same : Digest.quoteChars (c :: cs) = c :: Digest.quoteChars cs := by
        rw [Digest.quoteChars, List.flatMap_cons, if_neg marked]
        rfl
      rw [not_or] at marked
      rw [same, List.cons_append, splitQuoted_other seen _ marked.1 marked.2]

theorem splitValue_quote (key value : String) (rest : List Char) :
    splitValue key ((Digest.quote value).toList ++ rest) = .ok (value.toList, rest) := by
  have marks : (Digest.quote value).toList ++ rest =
      '"' :: (Digest.quoteChars value.toList ++ '"' :: rest) := by
    simp [Digest.quote]
  rw [marks, splitValue, splitQuoted_quoteChars]
  rfl

theorem IsBare.front {value : String} (h : IsBare value) :
    ∃ c r, value.toList = c :: r ∧ c ≠ '"' ∧ isBlank c = false := by
  cases letters : value.toList with
  | nil => exact absurd (String.toList_eq_nil_iff.1 letters) h.nonempty
  | cons c r =>
    have mem : c ∈ value.toList := by
      rw [letters]
      exact List.mem_cons_self ..
    exact ⟨c, r, rfl, (h.solid c mem).2⟩

theorem splitValue_bare (key : String) {value : String} (bare : IsBare value) {rest : List Char}
    (ends : Ends rest) : splitValue key (value.toList ++ rest) = .ok (value.toList, rest) := by
  have solid : ∀ c ∈ value.toList, isBlank c = false := fun c hc => (bare.solid c hc).2.2
  have passed : ∀ c ∈ value.toList, c != ',' := fun c hc => bne_iff_ne.2 (bare.solid c hc).1
  obtain ⟨c, cs, front, mark, -⟩ := bare.front
  have inhabited : value.toList ≠ [] := by simp [front]
  have stops : rest.takeWhile (· != ',') = [] ∧ rest.dropWhile (· != ',') = rest := by
    rcases ends with rfl | ⟨r, rfl⟩
    · exact ⟨rfl, rfl⟩
    · exact ⟨rfl, rfl⟩
  have unquoted : ∀ r, value.toList ++ rest ≠ '"' :: r := by
    intro r same
    rw [front, List.cons_append, List.cons.injEq] at same
    exact mark same.1
  rw [splitValue, List.takeWhile_append_of_pos passed, List.dropWhile_append_of_pos passed, stops.1,
    stops.2, List.append_nil, trimChars_eq_self solid, if_neg inhabited]
  exact unquoted

theorem splitDirective_key {key : String} (h : IsKey key) {r value rest : List Char}
    (split : splitValue key (r.dropWhile isBlank) = .ok (value, rest)) :
    splitDirective (key.toList ++ '=' :: r) = .ok ((key, String.ofList value), rest) := by
  have passed : ∀ c ∈ key.toList, isKeyChar c := fun c hc => (h.solid c hc).1
  have solid : ∀ c ∈ key.toList, isBlank c = false := by
    intro c hc
    have separates := (h.solid c hc).2
    rw [isSeparator, Bool.or_eq_false_iff] at separates
    exact separates.2
  have inhabited : key.toList ≠ [] := fun empty => h.nonempty (String.toList_eq_nil_iff.1 empty)
  have before : (key.toList ++ '=' :: r).takeWhile isKeyChar = key.toList := by
    rw [List.takeWhile_append_of_pos passed]
    exact List.append_nil _
  have after : (key.toList ++ '=' :: r).dropWhile isKeyChar = '=' :: r := by
    rw [List.dropWhile_append_of_pos passed]
    rfl
  rw [splitDirective, before, after, trimChars_eq_self solid]
  show (if key.toList = [] then _ else _) = _
  rw [if_neg inhabited, String.ofList_toList, split]

theorem IsKey.begins {key : String} (h : IsKey key) (r : List Char) :
    ∃ c r', key.toList ++ r = c :: r' ∧ isSeparator c = false := by
  cases letters : key.toList with
  | nil => exact absurd (String.toList_eq_nil_iff.1 letters) h.nonempty
  | cons c r' =>
    refine ⟨c, r' ++ r, rfl, (h.solid c ?_).2⟩
    rw [letters]
    exact List.mem_cons_self ..

def quoted (key value : String) : List Char := key.toList ++ '=' :: (Digest.quote value).toList

def unquoted (key value : String) : List Char := key.toList ++ '=' :: value.toList

theorem reads_quoted {key : String} (h : IsKey key) (value : String) :
    Reads (quoted key value) (key, value) where
  begins := h.begins _
  split := by
    intro rest _
    have mark : ((Digest.quote value).toList ++ rest).dropWhile isBlank =
        (Digest.quote value).toList ++ rest := by
      simp [Digest.quote, show isBlank '"' = false by decide]
    have read := splitValue_quote key value rest
    rw [← mark] at read
    rw [quoted, List.append_assoc, List.cons_append, splitDirective_key h read, String.ofList_toList]

theorem reads_unquoted {key value : String} (h : IsKey key) (bare : IsBare value) :
    Reads (unquoted key value) (key, value) where
  begins := h.begins _
  split := by
    intro rest ends
    have solid : (value.toList ++ rest).dropWhile isBlank = value.toList ++ rest := by
      obtain ⟨c, r, front, -, here⟩ := bare.front
      rw [front, List.cons_append, List.dropWhile_cons, here]
      rfl
    have read := splitValue_bare key bare ends
    rw [← solid] at read
    rw [unquoted, List.append_assoc, List.cons_append, splitDirective_key h read,
      String.ofList_toList]

theorem parseOnto_of_blank (found : Table) {cs : List Char}
    (skipped : cs.dropWhile isSeparator = []) : parseOnto found cs = .ok found := by
  rw [parseOnto]
  split
  · rfl
  · next h => cases skipped.symm.trans h

theorem parseOnto_of_split (found : Table) {cs r rest : List Char} {c : Char} {key value : String}
    (skipped : cs.dropWhile isSeparator = c :: r)
    (split : splitDirective (c :: r) = .ok ((key, value), rest)) :
    parseOnto found cs = parseOnto (found.put key value) rest := by
  rw [parseOnto]
  split
  · next h => cases skipped.symm.trans h
  · next h =>
    cases skipped.symm.trans h
    split
    · next h' => cases split.symm.trans h'
    · next h' =>
      cases split.symm.trans h'
      rfl

theorem ends_following (css : List (List Char)) : Ends (following css) := by
  cases css with
  | nil => exact .inl rfl
  | cons cs css => exact .inr ⟨_, rfl⟩

theorem Reads.dropWhile {cs : List Char} {entry : String × String} (h : Reads cs entry)
    (rest : List Char) : (cs ++ rest).dropWhile isSeparator = cs ++ rest := by
  obtain ⟨c, r, rfl, solid⟩ := h.begins
  rw [List.cons_append, List.dropWhile_cons, solid]
  rfl

theorem Reads.parseOnto {cs text rest : List Char} {entry : String × String} (h : Reads cs entry)
    (found : Table) (skipped : text.dropWhile isSeparator = cs ++ rest) (ends : Ends rest) :
    Challenge.parseOnto found text = Challenge.parseOnto (found.put entry.1 entry.2) rest := by
  have split := h.split rest ends
  obtain ⟨c, r, rfl, -⟩ := h.begins
  exact parseOnto_of_split found skipped split

theorem parseOnto_following {css : List (List Char)} {entries : Table}
    (each : List.Forall₂ Reads css entries) (found : Table) :
    parseOnto found (following css) =
      .ok (entries.foldl (fun t (key, value) => t.put key value) found) := by
  induction each generalizing found with
  | nil => exact parseOnto_of_blank found rfl
  | @cons cs _ css _ first _ ih =>
    have skipped : (following (cs :: css)).dropWhile isSeparator = cs ++ following css :=
      first.dropWhile _
    rw [first.parseOnto found skipped (ends_following css), List.foldl_cons, ih]

theorem parse_listed {cs : List Char} {css : List (List Char)} {entries : Table}
    (each : List.Forall₂ Reads (cs :: css) entries) (distinct : entries.keys.Nodup) {text : String}
    (h : text.toList = cs ++ following css) : parse text = .ok entries := by
  cases each with
  | @cons _ entry _ entries first others =>
    have folded := Table.foldl_put [] (entry :: entries) distinct
    rw [List.foldl_cons, List.nil_append] at folded
    rw [parse, h, first.parseOnto [] (first.dropWhile _) (ends_following css),
      parseOnto_following others]
    exact congrArg Except.ok folded

end Challenge

namespace Md5

theorem length_littleEndian (count n : Nat) : (littleEndian count n).length = count := by
  induction count generalizing n with
  | zero => rfl
  | succ count ih => rw [littleEndian, List.length_cons, ih]

theorem length_digest (bs : Bytes) : (digest bs).length = 16 := by
  simp [digest, length_littleEndian]

theorem length_hexDigest (bs : Bytes) : (hexDigest bs).length = 32 := by
  simp [hexDigest, hexChars, length_digest]

theorem isBare_hexDigest (bs : Bytes) : Challenge.IsBare (hexDigest bs) where
  nonempty := by
    intro empty
    have size := length_hexDigest bs
    rw [← String.length_toList, empty] at size
    cases size
  solid := by
    have digits : ∀ n : Fin 16,
        hexDigit n ≠ ',' ∧ hexDigit n ≠ '"' ∧ isBlank (hexDigit n) = false := by decide
    intro c hc
    rw [hexDigest, String.toList_ofList, hexChars, List.mem_flatMap] at hc
    obtain ⟨b, -, hc⟩ := hc
    have small := b.toNat_lt
    rcases List.mem_pair.1 hc with rfl | rfl
    · exact digits ⟨b.toNat / 16, by omega⟩
    · exact digits ⟨b.toNat % 16, by omega⟩

end Md5

namespace Digest

def directives (d : Digest) (response : String) : Table :=
  [("username", d.username), ("realm", d.realm), ("digest-uri", d.uri), ("nonce", d.nonce),
    ("nc", nonceCount), ("cnonce", d.clientNonce), ("qop", "auth"), ("charset", "utf-8"),
    ("response", response)]

open Challenge

theorem toList_reply (d : Digest) (response : String) : (d.reply response).toList =
    quoted "username" d.username ++ following [quoted "realm" d.realm, quoted "digest-uri" d.uri,
      quoted "nonce" d.nonce, unquoted "nc" Digest.nonceCount, quoted "cnonce" d.clientNonce,
      unquoted "qop" "auth", unquoted "charset" "utf-8", unquoted "response" response] := by
  delta Digest.reply
  simp [following, quoted, unquoted]

/-- A reply says what it was made of, whatever the values are. -/
theorem parse_reply (d : Digest) {response : String} (bare : IsBare response) :
    Challenge.parse (d.reply response) = .ok (d.directives response) := by
  refine parse_listed ?_ ?_ (d.toList_reply response)
  · exact .cons (reads_quoted (by decide) _) <| .cons (reads_quoted (by decide) _) <|
      .cons (reads_quoted (by decide) _) <| .cons (reads_quoted (by decide) _) <|
      .cons (reads_unquoted (by decide) (by decide)) <| .cons (reads_quoted (by decide) _) <|
      .cons (reads_unquoted (by decide) (by decide)) <|
      .cons (reads_unquoted (by decide) (by decide)) <|
      .cons (reads_unquoted (by decide) bare) .nil
  · show ["username", "realm", "digest-uri", "nonce", "nc", "cnonce", "qop", "charset",
      "response"].Nodup
    decide

end Digest
end XmppStream
