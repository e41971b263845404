import XmppStream.Proofs.Markup.Written
import XmppStream.Proofs.Reader.Tag

/-! The attributes of a written tag are read back as they were: no value is cut short, no key is
taken for another, and entities give back the characters that they were written for. -/

namespace XmppStream
open Markup

theorem decodeName_encode (s : String) : decodeName (Utf8.encode s) = .ok s :=
  decodeName_ok.2 (Utf8.decodeString_encode s)

theorem decodeText_escape (s : String) : decodeText (Utf8.encode (escape s)) = .ok s := by
  have chars : (escape s).toList = escapeChars s.toList := String.toList_ofList
  unfold decodeText
  rw [Utf8.decode_encode, chars]
  dsimp only
  rw [unescape_escapeChars]
  dsimp only
  rw [String.ofList_toList]

namespace Markup

theorem writeAttrs_front (attrs : Table) :
    Utf8.encode (writeAttrs attrs) = [] ∨ ∃ r, Utf8.encode (writeAttrs attrs) = 0x20 :: r := by
  cases attrs with
  | nil => exact .inl rfl
  | cons entry attrs =>
    obtain ⟨key, value⟩ := entry
    right
    rw [writeAttrs_cons, Utf8.encode_append, encode_writeAttr]
    exact ⟨_, rfl⟩

theorem tagName_written {name : String} (solid : ∀ b ∈ Utf8.encode name, !isBlankByte b)
    (attrs : Table) :
    tagName (Utf8.encode (written name attrs)) = Utf8.encode name := by
  have stop : (Utf8.encode (writeAttrs attrs)).takeWhile (!isBlankByte ·) = [] := by
    rcases writeAttrs_front attrs with h | ⟨r, h⟩
    · rw [h, List.takeWhile_nil]
    · rw [h, List.takeWhile_cons_of_neg (by decide)]
  unfold tagName
  rw [written, Utf8.encode_append, List.takeWhile_append_of_pos solid, stop,
    List.append_nil]

theorem afterName_written {name : String} (solid : ∀ b ∈ Utf8.encode name, !isBlankByte b)
    (attrs : Table) :
    (Utf8.encode (written name attrs)).dropWhile (!isBlankByte ·) =
      Utf8.encode (writeAttrs attrs) := by
  rw [written, Utf8.encode_append, List.dropWhile_append_of_pos solid]
  rcases writeAttrs_front attrs with h | ⟨r, h⟩
  · rw [h, List.dropWhile_nil]
  · rw [h, List.dropWhile_cons_of_neg (by decide)]

theorem attributesFrom_of_split {size : Nat} {seen : List RawAttribute} {bs r rest : Bytes}
    {b : UInt8} {a : RawAttribute} (skipped : skipBlanks bs = b :: r)
    (split : splitAttribute size seen b r = .ok (a, rest)) :
    attributesFrom size seen bs = attributesFrom size (a :: seen) rest := by
  rw [attributesFrom]
  split
  · next h => cases skipped.symm.trans h
  · next h =>
    cases skipped.symm.trans h
    split
    · next h' => cases split.symm.trans h'
    · next h' =>
      cases split.symm.trans h'
      rfl

theorem splitValue_written (size : Nat) {value : Bytes} (free : ∀ b ∈ value, b != 0x27) (rest : Bytes) :
    splitValue size (0x27 :: (value ++ 0x27 :: rest)) = .ok (value, rest) := by
  have mark : ((0x27 : UInt8) != 0x27) = false := rfl
  have dropped : (value ++ 0x27 :: rest).dropWhile (· != 0x27) = 0x27 :: rest := by
    rw [List.dropWhile_append_of_pos free, List.dropWhile_cons, mark]
    rfl
  have taken : (value ++ 0x27 :: rest).takeWhile (· != 0x27) = value := by
    rw [List.takeWhile_append_of_pos free, List.takeWhile_cons, mark]
    exact List.append_nil _
  rw [splitValue, if_pos (show isQuote 0x27 from rfl), dropped, taken]

theorem splitAttribute_written (size : Nat) {seen : List RawAttribute} {key : String}
    (value : String) (new : ∀ s ∈ seen, s.key ≠ Utf8.encode key) (rest : Bytes)
    {b : UInt8} {r : Bytes} (first : Utf8.encode key = b :: r) (keyBytes : ∀ c ∈ r, isKeyByte c) :
    ∃ start, splitAttribute size seen b
        (r ++ 0x3D :: 0x27 :: (Utf8.encode (escape value) ++ 0x27 :: rest)) =
      .ok (⟨Utf8.encode key, Utf8.encode (escape value), start⟩, rest) := by
  have free : ∀ c ∈ Utf8.encode (escape value), c != 0x27 := by
    intro c hc
    have all := escape_free value c hc
    apply bne_iff_ne.2
    rintro rfl
    revert all
    decide
  have equals : isKeyByte 0x3D = false := rfl
  have unknown : seen.find? (·.key = b :: r) = none := by
    rw [← first]
    simpa using new
  unfold splitAttribute
  dsimp only
  rw [List.takeWhile_append_of_pos keyBytes, List.dropWhile_append_of_pos keyBytes,
    List.takeWhile_cons, List.dropWhile_cons, equals, if_neg (by simp), if_neg (by simp),
    List.append_nil]
  rw [show skipBlanks (0x3D :: 0x27 :: (Utf8.encode (escape value) ++ 0x27 :: rest)) =
    0x3D :: 0x27 :: (Utf8.encode (escape value) ++ 0x27 :: rest) from rfl]
  dsimp only
  rw [if_pos (show isEquals 0x3D from rfl), unknown]
  dsimp only
  rw [show skipBlanks (0x27 :: (Utf8.encode (escape value) ++ 0x27 :: rest)) =
    0x27 :: (Utf8.encode (escape value) ++ 0x27 :: rest) from rfl, splitValue_written size free, first]
  exact ⟨_, rfl⟩

end Markup

namespace Reference

theorem attributesFrom_writeAttrs (size : Nat) (seen : List RawAttribute) {attrs : Table}
    (areKeys : ∀ key ∈ attrs.keys, ReadsAsKey key) (distinct : attrs.keys.Nodup)
    (new : ∀ s ∈ seen, ∀ key ∈ attrs.keys, s.key ≠ Utf8.encode key) :
    ∃ raws, attributesFrom size seen (Utf8.encode (writeAttrs attrs)) = (seen.reverse ++ raws, none)
      ∧ decodeAll raws = some attrs := by
  -- `seen` are the attributes before these, whose keys are other keys.
  induction attrs generalizing seen with
  | nil =>
    refine ⟨[], ?_, rfl⟩
    rw [List.append_nil]
    unfold attributesFrom
    rfl
  | cons entry attrs ih =>
    obtain ⟨key, value⟩ := entry
    rw [Table.keys_cons, List.forall_mem_cons] at areKeys
    rw [Table.keys_cons, List.nodup_cons] at distinct
    obtain ⟨b, r, first, solid, keyBytes⟩ := areKeys.1.first
    obtain ⟨start, split⟩ := splitAttribute_written size value
      (fun s hs => new s hs key (List.mem_cons_self ..)) (Utf8.encode (writeAttrs attrs)) first keyBytes
    have whole : Utf8.encode (writeAttrs ((key, value) :: attrs)) =
        0x20 :: b :: (r ++ 0x3D :: 0x27 :: (Utf8.encode (escape value)
          ++ 0x27 :: Utf8.encode (writeAttrs attrs))) := by
      rw [writeAttrs_cons, Utf8.encode_append, encode_writeAttr, first]
      simp only [List.cons_append, List.append_assoc, List.nil_append]
    have skipped : skipBlanks (Utf8.encode (writeAttrs ((key, value) :: attrs))) =
        b :: (r ++ 0x3D :: 0x27 :: (Utf8.encode (escape value)
          ++ 0x27 :: Utf8.encode (writeAttrs attrs))) := by
      rw [whole, skipBlanks, List.dropWhile_cons_of_pos (by decide),
        List.dropWhile_cons_of_neg (by simpa using solid)]
    obtain ⟨raws, read, decoded⟩ := ih
      (⟨Utf8.encode key, Utf8.encode (escape value), start⟩ :: seen) areKeys.2 distinct.2 (by
        intro s hs k hk
        rcases List.mem_cons.1 hs with rfl | hs
        · intro same
          exact distinct.1 (Utf8.encode_injective same ▸ hk)
        · exact new s hs k (List.mem_cons_of_mem _ hk))
    refine ⟨⟨Utf8.encode key, Utf8.encode (escape value), start⟩ :: raws, ?_, ?_⟩
    · rw [attributesFrom_of_split skipped split, read, List.reverse_cons, List.append_assoc,
        List.singleton_append]
    · rw [decodeAll, decodeName_encode, decodeText_escape, decoded]

theorem attributes?_written {name : String} (solid : ∀ b ∈ Utf8.encode name, !isBlankByte b)
    {attrs : Table} (areKeys : ∀ key ∈ attrs.keys, ReadsAsKey key) (distinct : attrs.keys.Nodup) :
    attributes? (Utf8.encode (written name attrs)) = some attrs := by
  obtain ⟨raws, read, decoded⟩ :=
    attributesFrom_writeAttrs (Utf8.encode (written name attrs)).length [] areKeys distinct nofun
  unfold attributes?
  rw [attributes, afterName_written solid, read]
  exact decoded

end Reference
end XmppStream
