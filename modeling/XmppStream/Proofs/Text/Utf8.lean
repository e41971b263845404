import Mathlib.Tactic.SplitIfs
import XmppStream.Text.Utf8

/-! Decoding UTF-8 undoes encoding, and accepts nothing else: what it accepts is the encoding of the
characters it gives. -/

namespace XmppStream.Utf8

theorem encodeChar_cases (c : Char) :
    (c.toNat < 0x80 ∧ c.utf8Size = 1 ∧ String.utf8EncodeChar c = [UInt8.ofNat c.toNat])
      ∨ (0x80 ≤ c.toNat ∧ c.toNat < 0x800 ∧ c.utf8Size = 2
        ∧ String.utf8EncodeChar c
          = [UInt8.ofNat (c.toNat / 64 % 32 + 0xC0), UInt8.ofNat (c.toNat % 64 + 0x80)])
      ∨ (0x800 ≤ c.toNat ∧ c.toNat < 0x10000 ∧ c.utf8Size = 3
        ∧ String.utf8EncodeChar c
          = [UInt8.ofNat (c.toNat / 4096 % 16 + 0xE0), UInt8.ofNat (c.toNat / 64 % 64 + 0x80),
            UInt8.ofNat (c.toNat % 64 + 0x80)])
      ∨ (0x10000 ≤ c.toNat ∧ c.toNat < 0x110000 ∧ c.utf8Size = 4
        ∧ String.utf8EncodeChar c
          = [UInt8.ofNat (c.toNat / 262144 % 8 + 0xF0), UInt8.ofNat (c.toNat / 4096 % 64 + 0x80),
            UInt8.ofNat (c.toNat / 64 % 64 + 0x80), UInt8.ofNat (c.toNat % 64 + 0x80)]) := by
  have length := String.length_utf8EncodeChar c
  have valid : c.toNat.isValidChar := c.valid
  rw [Nat.isValidChar] at valid
  rw [String.utf8EncodeChar] at length ⊢
  rw [Char.toNat_val] at length ⊢
  -- Which length it is follows from the number, and the bytes are those of the definition.
  split_ifs at length ⊢ with one two three
  · exact .inl ⟨by omega, length.symm, rfl⟩
  · exact .inr (.inl ⟨by omega, by omega, length.symm, rfl⟩)
  · exact .inr (.inr (.inl ⟨by omega, by omega, length.symm, rfl⟩))
  · exact .inr (.inr (.inr ⟨by omega, by omega, length.symm, rfl⟩))

theorem toNat_byte {n : Nat} (h : n < 256) : (UInt8.ofNat n).toNat = n :=
  UInt8.toNat_ofNat_of_lt' h

theorem tailBits_byte (n : Nat) : tailBits (UInt8.ofNat (n % 64 + 0x80)) = n % 64 := by
  rw [tailBits, toNat_byte (by omega)]
  omega

theorem isTail_iff (b : UInt8) : isTail b ↔ 0x80 ≤ b.toNat ∧ b.toNat ≤ 0xBF := by
  rw [isTail, Bool.and_eq_true, decide_eq_true_eq, decide_eq_true_eq]
  exact Iff.rfl

theorem isTail_byte (n : Nat) : isTail (UInt8.ofNat (n % 64 + 0x80)) := by
  rw [isTail_iff, toNat_byte (by omega)]
  omega

theorem isSecond_iff (a b : UInt8) :
    isSecond a b ↔ 0x80 ≤ b.toNat ∧ b.toNat ≤ 0xBF ∧ (a.toNat = 0xE0 → 0xA0 ≤ b.toNat)
      ∧ (a.toNat = 0xED → b.toNat ≤ 0x9F) ∧ (a.toNat = 0xF0 → 0x90 ≤ b.toNat)
      ∧ (a.toNat = 0xF4 → b.toNat ≤ 0x8F) := by
  rw [isSecond]
  simp only [← UInt8.toNat_inj]
  split_ifs <;>
    simp only [Bool.and_eq_true, decide_eq_true_eq, UInt8.le_iff_toNat_le, isTail_iff] <;>
    simp only [UInt8.reduceToNat] at * <;> omega

section
variable (offset : Nat) (seen : List Char) {a b c d : UInt8} (bs : Bytes)

theorem decodeFrom_one (ha : a.toNat < 0x80) :
    decodeFrom offset seen (a :: bs) = decodeFrom (offset + 1) (Char.ofNat a.toNat :: seen) bs := by
  rw [decodeFrom.eq_def]
  dsimp only
  rw [if_pos (UInt8.lt_iff_toNat_lt.2 ha)]

theorem decodeFrom_two (ha : 0xC2 ≤ a.toNat ∧ a.toNat < 0xE0) (hb : isSecond a b) :
    decodeFrom offset seen (a :: b :: bs) =
      decodeFrom (offset + 2) (Char.ofNat (a.toNat % 32 * 64 + tailBits b) :: seen) bs := by
  rw [decodeFrom.eq_def]
  simp only [UInt8.lt_iff_toNat_lt, UInt8.reduceToNat, Bool.or_eq_true, decide_eq_true_eq, hb,
    Bool.not_true, Bool.false_eq_true, if_false]
  rw [if_neg (by omega), if_neg (by omega), if_pos (by omega)]

theorem decodeFrom_three (ha : 0xE0 ≤ a.toNat ∧ a.toNat < 0xF0) (hb : isSecond a b)
    (hc : isTail c) :
    decodeFrom offset seen (a :: b :: c :: bs) =
      decodeFrom (offset + 3)
        (Char.ofNat ((a.toNat % 16 * 64 + tailBits b) * 64 + tailBits c) :: seen) bs := by
  rw [decodeFrom.eq_def]
  simp only [UInt8.lt_iff_toNat_lt, UInt8.reduceToNat, Bool.or_eq_true, decide_eq_true_eq, hb, hc,
    Bool.not_true, Bool.false_eq_true, if_false]
  rw [if_neg (by omega), if_neg (by omega), if_neg (by omega), if_pos (by omega)]

theorem decodeFrom_four (ha : 0xF0 ≤ a.toNat ∧ a.toNat < 0xF5) (hb : isSecond a b)
    (hc : isTail c) (hd : isTail d) :
    decodeFrom offset seen (a :: b :: c :: d :: bs) =
      decodeFrom (offset + 4)
        (Char.ofNat (((a.toNat % 8 * 64 + tailBits b) * 64 + tailBits c) * 64 + tailBits d) :: seen)
        bs := by
  rw [decodeFrom.eq_def]
  simp only [UInt8.lt_iff_toNat_lt, UInt8.reduceToNat, Bool.or_eq_true, decide_eq_true_eq, hb, hc,
    hd, Bool.not_true, Bool.false_eq_true, if_false]
  rw [if_neg (by omega), if_neg (by omega), if_neg (by omega), if_neg (by omega)]

end

theorem decodeFrom_encodeChar (offset : Nat) (seen : List Char) (c : Char) (bs : Bytes) :
    decodeFrom offset seen (String.utf8EncodeChar c ++ bs) =
      decodeFrom (offset + c.utf8Size) (c :: seen) bs := by
  have valid : c.toNat.isValidChar := c.valid
  rw [Nat.isValidChar] at valid
  rcases encodeChar_cases c with ⟨hc, size, bytes⟩ | ⟨low, high, size, bytes⟩
    | ⟨low, high, size, bytes⟩ | ⟨low, high, size, bytes⟩
  · have lead := toNat_byte (n := c.toNat) (by omega)
    rw [bytes, size, List.singleton_append, decodeFrom_one _ _ _ (by omega), lead, Char.ofNat_toNat]
  · have lead := toNat_byte (n := c.toNat / 64 % 32 + 0xC0) (by omega)
    have second := toNat_byte (n := c.toNat % 64 + 0x80) (by omega)
    rw [bytes, size, List.cons_append, List.cons_append, List.nil_append,
      decodeFrom_two _ _ _ (by omega) ((isSecond_iff _ _).2 (by omega)), tailBits_byte, lead,
      show (c.toNat / 64 % 32 + 0xC0) % 32 * 64 + c.toNat % 64 = c.toNat by omega, Char.ofNat_toNat]
  · have lead := toNat_byte (n := c.toNat / 4096 % 16 + 0xE0) (by omega)
    have second := toNat_byte (n := c.toNat / 64 % 64 + 0x80) (by omega)
    rw [bytes, size, List.cons_append, List.cons_append, List.cons_append, List.nil_append,
      decodeFrom_three _ _ _ (by omega) ((isSecond_iff _ _).2 (by omega)) (isTail_byte _),
      tailBits_byte, tailBits_byte, lead,
      show ((c.toNat / 4096 % 16 + 0xE0) % 16 * 64 + c.toNat / 64 % 64) * 64 + c.toNat % 64 = c.toNat
        by omega, Char.ofNat_toNat]
  · have lead := toNat_byte (n := c.toNat / 262144 % 8 + 0xF0) (by omega)
    have second := toNat_byte (n := c.toNat / 4096 % 64 + 0x80) (by omega)
    rw [bytes, size, List.cons_append, List.cons_append, List.cons_append, List.cons_append,
      List.nil_append,
      decodeFrom_four _ _ _ (by omega) ((isSecond_iff _ _).2 (by omega)) (isTail_byte _)
        (isTail_byte _),
      tailBits_byte, tailBits_byte, tailBits_byte, lead,
      show (((c.toNat / 262144 % 8 + 0xF0) % 8 * 64 + c.toNat / 4096 % 64) * 64
        + c.toNat / 64 % 64) * 64 + c.toNat % 64 = c.toNat by omega, Char.ofNat_toNat]

theorem decodeFrom_encodeChars (offset : Nat) (seen cs : List Char) :
    decodeFrom offset seen (cs.flatMap String.utf8EncodeChar) = .ok (seen.reverse ++ cs) := by
  induction cs generalizing offset seen with
  | nil => rw [List.flatMap_nil, decodeFrom, List.append_nil]
  | cons c cs ih =>
    rw [List.flatMap_cons, decodeFrom_encodeChar, ih, List.reverse_cons, List.append_assoc,
      List.singleton_append]

@[simp]
theorem decode_encode (s : String) : decode (encode s) = .ok s.toList := by
  rw [decode, encode, decodeFrom_encodeChars, List.reverse_nil, List.nil_append]

@[simp]
theorem decodeString_encode (s : String) : decodeString (encode s) = .ok s := by
  rw [decodeString, decode_encode]
  exact congrArg Except.ok (String.ofList_toList)

theorem toNat_ofNat {n : Nat} (h : n.isValidChar) : (Char.ofNat n).toNat = n := by
  rw [Char.ofNat, dif_pos h]
  rfl

theorem byte_eq {n : Nat} {b : UInt8} (h : b.toNat = n) : UInt8.ofNat n = b := by
  rw [← h, UInt8.ofNat_toNat]

section
variable {a b c d : UInt8}

theorem encodeChar_one (ha : a.toNat < 0x80) :
    String.utf8EncodeChar (Char.ofNat a.toNat) = [a] := by
  have number := toNat_ofNat (n := a.toNat) (.inl (by omega))
  rcases encodeChar_cases (Char.ofNat a.toNat) with ⟨-, -, bytes⟩ | h | h | h
  · rw [bytes, number, UInt8.ofNat_toNat]
  all_goals omega

theorem encodeChar_two (ha : 0xC2 ≤ a.toNat ∧ a.toNat < 0xE0) (hb : isSecond a b) :
    String.utf8EncodeChar (Char.ofNat (a.toNat % 32 * 64 + tailBits b)) = [a, b] := by
  rw [isSecond_iff] at hb
  rw [tailBits]
  have number := toNat_ofNat (n := a.toNat % 32 * 64 + b.toNat % 64) (.inl (by omega))
  rcases encodeChar_cases (Char.ofNat (a.toNat % 32 * 64 + b.toNat % 64)) with
    h | ⟨-, -, -, bytes⟩ | h | h
  · omega
  · rw [bytes, number, byte_eq (b := a) (by omega), byte_eq (b := b) (by omega)]
  all_goals omega

theorem encodeChar_three (ha : 0xE0 ≤ a.toNat ∧ a.toNat < 0xF0) (hb : isSecond a b)
    (hc : isTail c) :
    String.utf8EncodeChar (Char.ofNat ((a.toNat % 16 * 64 + tailBits b) * 64 + tailBits c))
      = [a, b, c] := by
  rw [isSecond_iff] at hb
  rw [isTail_iff] at hc
  rw [tailBits, tailBits]
  have number := toNat_ofNat (n := (a.toNat % 16 * 64 + b.toNat % 64) * 64 + c.toNat % 64)
    (by rw [Nat.isValidChar]; omega)
  rcases encodeChar_cases
    (Char.ofNat ((a.toNat % 16 * 64 + b.toNat % 64) * 64 + c.toNat % 64)) with
    h | h | ⟨-, -, -, bytes⟩ | h
  · omega
  · omega
  · rw [bytes, number, byte_eq (b := a) (by omega), byte_eq (b := b) (by omega),
      byte_eq (b := c) (by omega)]
  · omega

theorem encodeChar_four (ha : 0xF0 ≤ a.toNat ∧ a.toNat < 0xF5) (hb : isSecond a b)
    (hc : isTail c) (hd : isTail d) :
    String.utf8EncodeChar
        (Char.ofNat (((a.toNat % 8 * 64 + tailBits b) * 64 + tailBits c) * 64 + tailBits d))
      = [a, b, c, d] := by
  rw [isSecond_iff] at hb
  rw [isTail_iff] at hc hd
  rw [tailBits, tailBits, tailBits]
  have number := toNat_ofNat
    (n := ((a.toNat % 8 * 64 + b.toNat % 64) * 64 + c.toNat % 64) * 64 + d.toNat % 64)
    (by rw [Nat.isValidChar]; omega)
  rcases encodeChar_cases (Char.ofNat
      (((a.toNat % 8 * 64 + b.toNat % 64) * 64 + c.toNat % 64) * 64 + d.toNat % 64)) with
    h | h | h | ⟨-, -, -, bytes⟩
  · omega
  · omega
  · omega
  · rw [bytes, number, byte_eq (b := a) (by omega), byte_eq (b := b) (by omega),
      byte_eq (b := c) (by omega), byte_eq (b := d) (by omega)]

end

theorem flatMap_reverse_cons (seen : List Char) (c : Char) (bs : Bytes) :
    (c :: seen).reverse.flatMap String.utf8EncodeChar ++ bs =
      seen.reverse.flatMap String.utf8EncodeChar ++ (String.utf8EncodeChar c ++ bs) := by
  rw [List.reverse_cons, List.flatMap_append, List.flatMap_singleton, List.append_assoc]

/-- Decoding accepts only what encoding gives. -/
theorem encode_of_decodeFrom {offset : Nat} {seen cs : List Char} {bs : Bytes}
    (h : decodeFrom offset seen bs = .ok cs) :
    cs.flatMap String.utf8EncodeChar = seen.reverse.flatMap String.utf8EncodeChar ++ bs := by
  -- Only the end and the four lengths of a character give something; all other cases are faults.
  fun_induction decodeFrom offset seen bs with
  | case1 offset seen =>
    cases h
    rw [List.append_nil]
  | case2 offset seen a r ha ih =>
    rw [ih h, flatMap_reverse_cons, encodeChar_one (UInt8.lt_iff_toNat_lt.1 ha)]
    rfl
  | case6 offset seen a ha lead b r hb two ih =>
    simp only [UInt8.lt_iff_toNat_lt, UInt8.reduceToNat, Bool.or_eq_true, decide_eq_true_eq,
      Bool.not_eq_true', Bool.not_eq_false] at ha lead two hb
    rw [ih h, flatMap_reverse_cons, encodeChar_two (by omega) hb]
    rfl
  | case9 offset seen a ha lead b hb two c r hc three ih =>
    simp only [UInt8.lt_iff_toNat_lt, UInt8.reduceToNat, Bool.or_eq_true, decide_eq_true_eq,
      Bool.not_eq_true', Bool.not_eq_false] at ha lead two three hb hc
    rw [ih h, flatMap_reverse_cons, encodeChar_three (by omega) hb hc]
    rfl
  | case12 offset seen a ha lead b hb two c hc three d r hd ih =>
    simp only [UInt8.lt_iff_toNat_lt, UInt8.reduceToNat, Bool.or_eq_true, decide_eq_true_eq,
      Bool.not_eq_true', Bool.not_eq_false] at ha lead two three hb hc hd
    rw [ih h, flatMap_reverse_cons, encodeChar_four (by omega) hb hc hd]
    rfl
  | _ => cases h

theorem encode_of_decodeString {bs : Bytes} {s : String} (h : decodeString bs = .ok s) :
    encode s = bs := by
  rw [decodeString] at h
  cases hd : decode bs with
  | error e =>
    rw [hd] at h
    cases h
  | ok cs =>
    rw [hd] at h
    cases h
    rw [encode, String.toList_ofList, encode_of_decodeFrom hd, List.reverse_nil, List.flatMap_nil,
      List.nil_append]

theorem encode_append (s t : String) : encode (s ++ t) = encode s ++ encode t := by
  rw [encode, String.toList_append, List.flatMap_append, encode, encode]

theorem encode_injective {s t : String} (h : encode s = encode t) : s = t := by
  have same := decodeString_encode t
  rw [← h, decodeString_encode] at same
  exact Except.ok.inj same

theorem mem_of_mem_encode {s : String} {c : Char} (ascii : c.toNat < 0x80)
    (h : UInt8.ofNat c.toNat ∈ encode s) : c ∈ s.toList := by
  rw [encode, List.mem_flatMap] at h
  obtain ⟨d, hd, h⟩ := h
  have number := toNat_byte (n := c.toNat) (by omega)
  have same (n : Nat) (small : n < 256) (e : UInt8.ofNat c.toNat = UInt8.ofNat n) : c.toNat = n := by
    rw [← number, e, toNat_byte small]
  -- All bytes of a longer character are 0x80 and above.
  rcases encodeChar_cases d with ⟨low, -, bytes⟩ | ⟨low, high, -, bytes⟩ | ⟨low, high, -, bytes⟩
    | ⟨low, high, -, bytes⟩
  all_goals
    rw [bytes] at h
    simp only [List.mem_cons, List.not_mem_nil, or_false] at h
  · have equal : c = d := by
      rw [← Char.toNat_inj]
      exact same _ (by omega) h
    rwa [equal]
  · rcases h with h | h
    all_goals
      have := same _ (by omega) h
      omega
  · rcases h with h | h | h
    all_goals
      have := same _ (by omega) h
      omega
  · rcases h with h | h | h | h
    all_goals
      have := same _ (by omega) h
      omega

theorem encodeChar_ne_nil (c : Char) : String.utf8EncodeChar c ≠ [] := by
  have length := String.length_utf8EncodeChar c
  have pos := c.utf8Size_pos
  intro none
  rw [none] at length
  exact absurd length.symm (Nat.ne_of_gt pos)

theorem eq_of_mem_encodeChar {c d : Char} (ascii : c.toNat < 0x80)
    (h : UInt8.ofNat c.toNat ∈ String.utf8EncodeChar d) : d = c := by
  have single : UInt8.ofNat c.toNat ∈ encode (String.ofList [d]) := by
    rwa [encode, String.toList_ofList, List.flatMap_singleton]
  have mem := mem_of_mem_encode ascii single
  rw [String.toList_ofList, List.mem_singleton] at mem
  exact mem.symm

theorem head_of_encode {s : String} {c : Char} {r : Bytes} (ascii : c.toNat < 0x80)
    (h : encode s = UInt8.ofNat c.toNat :: r) : s.toList.head? = some c := by
  rw [encode] at h
  cases hs : s.toList with
  | nil =>
    rw [hs] at h
    cases h
  | cons d ds =>
    rw [hs, List.flatMap_cons] at h
    obtain ⟨b, bs, hd⟩ := List.exists_cons_of_ne_nil (encodeChar_ne_nil d)
    rw [hd, List.cons_append] at h
    have first : UInt8.ofNat c.toNat ∈ String.utf8EncodeChar d := by
      rw [hd, (List.cons.inj h).1]
      exact List.mem_cons_self ..
    rw [eq_of_mem_encodeChar ascii first, List.head?_cons]

theorem last_of_encode {s : String} {c : Char} (ascii : c.toNat < 0x80)
    (h : (encode s).getLast? = some (UInt8.ofNat c.toNat)) : s.toList.getLast? = some c := by
  rw [encode] at h
  rcases List.eq_nil_or_concat s.toList with none | ⟨ds, d, hs⟩
  · rw [none] at h
    cases h
  · have inhabited := mt List.getLast?_eq_none_iff.1 (encodeChar_ne_nil d)
    obtain ⟨b, ends⟩ := Option.ne_none_iff_exists'.1 inhabited
    rw [hs, List.concat_eq_append, List.flatMap_append, List.flatMap_singleton, List.getLast?_append,
      ends, Option.some_or, ← ends] at h
    have last := eq_of_mem_encodeChar ascii (List.mem_of_getLast? h)
    rw [hs, List.concat_eq_append, List.getLast?_concat, last]

theorem encode_eq_nil {s : String} : encode s = [] ↔ s = "" := by
  constructor
  · intro h
    apply encode_injective
    rw [h]
    rfl
  · rintro rfl
    rfl

theorem decodeString_injective {bs bs' : Bytes} {s : String} (h : decodeString bs = .ok s)
    (h' : decodeString bs' = .ok s) : bs = bs' := by
  rw [← encode_of_decodeString h, ← encode_of_decodeString h']

end XmppStream.Utf8
