import XmppStream.Proofs.Text.Utf8
import XmppStream.Text.Base64
import XmppStream.Text.Basic

/-! Decoding base64 undoes encoding, and what is encoded has no blanks around it. -/

namespace XmppStream.Base64

theorem value?_letter {n : Nat} (h : n < 64) : value? (letter n) = some n := by
  have all : ∀ n : Fin 64, value? (letter n) = some n.val := by decide +kernel
  exact all ⟨n, h⟩

theorem letter_ne_padding {n : Nat} (h : n < 64) : letter n ≠ '=' := by
  intro padding
  have known := value?_letter h
  rw [padding] at known
  cases known

theorem isBlank_letter {n : Nat} (h : n < 64) : isBlank (letter n) = false := by
  have all : ∀ n : Fin 64, isBlank (letter n) = false := by decide +kernel
  exact all ⟨n, h⟩

theorem decodeOne?_byte (a : UInt8) : decodeOne? (a.toNat / 4) (a.toNat % 4 * 16) = some [a] := by
  rw [decodeOne?, if_pos (by omega), Utf8.byte_eq (b := a) (by omega)]

theorem decodeTwo?_bytes (a b : UInt8) :
    decodeTwo? (a.toNat / 4) (a.toNat % 4 * 16 + b.toNat / 16) (b.toNat % 16 * 4) = some [a, b] := by
  have small := b.toNat_lt
  rw [decodeTwo?, if_pos (by omega), Utf8.byte_eq (b := a) (by omega),
    Utf8.byte_eq (b := b) (by omega)]

theorem decodeThree_bytes (a b c : UInt8) :
    decodeThree (a.toNat / 4) (a.toNat % 4 * 16 + b.toNat / 16) (b.toNat % 16 * 4 + c.toNat / 64)
      (c.toNat % 64) = [a, b, c] := by
  have small := b.toNat_lt
  have small' := c.toNat_lt
  rw [decodeThree, Utf8.byte_eq (b := a) (by omega), Utf8.byte_eq (b := b) (by omega),
    Utf8.byte_eq (b := c) (by omega)]

theorem decodeChars?_encodeChars (bs : Bytes) : decodeChars? (encodeChars bs) = some bs := by
  -- Three bytes at a time, with one or two left for the last group.
  fun_induction encodeChars bs with
  | case1 => rfl
  | case2 a =>
    have small := a.toNat_lt
    rw [decodeChars?, value?_letter (by omega), value?_letter (by omega)]
    exact decodeOne?_byte a
  | case3 a b =>
    have small := a.toNat_lt
    have small' := b.toNat_lt
    rw [decodeChars?, value?_letter (by omega), value?_letter (by omega)]
    dsimp only
    rw [if_neg (letter_ne_padding (by omega)), value?_letter (by omega)]
    exact decodeTwo?_bytes a b
  | case4 a b c r ih =>
    have small := a.toNat_lt
    have small' := b.toNat_lt
    have small'' := c.toNat_lt
    rw [decodeChars?, value?_letter (by omega), value?_letter (by omega)]
    dsimp only
    rw [if_neg (letter_ne_padding (by omega)), value?_letter (by omega)]
    dsimp only
    rw [if_neg (letter_ne_padding (by omega)), value?_letter (by omega)]
    dsimp only
    rw [ih, decodeThree_bytes]
    rfl

theorem decode?_encode (bs : Bytes) : decode? (encode bs) = some bs := by
  rw [decode?, encode, String.toList_ofList, decodeChars?_encodeChars]

theorem isBlank_encodeChars (bs : Bytes) : ∀ c ∈ encodeChars bs, isBlank c = false := by
  have padding : isBlank '=' = false := by decide
  fun_induction encodeChars bs with
  | case1 => nofun
  | case2 a =>
    have small := a.toNat_lt
    simp only [List.forall_mem_cons]
    exact ⟨isBlank_letter (by omega), isBlank_letter (by omega), padding, padding, nofun⟩
  | case3 a b =>
    have small := a.toNat_lt
    have small' := b.toNat_lt
    simp only [List.forall_mem_cons]
    exact ⟨isBlank_letter (by omega), isBlank_letter (by omega), isBlank_letter (by omega), padding,
      nofun⟩
  | case4 a b c r ih =>
    have small := a.toNat_lt
    have small' := b.toNat_lt
    have small'' := c.toNat_lt
    simp only [List.forall_mem_cons]
    exact ⟨isBlank_letter (by omega), isBlank_letter (by omega), isBlank_letter (by omega),
      isBlank_letter (by omega), ih⟩

theorem trim_encode (bs : Bytes) : trim (encode bs) = encode bs := by
  rw [trim, encode, String.toList_ofList, trimChars_eq_self (isBlank_encodeChars bs)]

theorem encode_ne_empty {bs : Bytes} (inhabited : bs ≠ []) : encode bs ≠ "" := by
  intro empty
  have decoded := decode?_encode bs
  rw [empty] at decoded
  exact inhabited (Option.some.inj decoded).symm

end XmppStream.Base64
