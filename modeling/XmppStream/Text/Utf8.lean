/-! UTF-8 on lists of bytes. Decoding tells where the first fault is and how long the malformed
sequence is, so a reader can report both. -/

namespace XmppStream

abbrev Bytes := List UInt8

namespace Utf8

def encode (s : String) : Bytes := s.toList.flatMap String.utf8EncodeChar

/-- The first byte that fits no character. `length` counts the bytes of the malformed sequence; it
is absent when the input ends inside a sequence that more bytes could complete. -/
structure Fault where
  offset : Nat
  length : Option Nat
deriving DecidableEq, Repr

def Fault.message : Fault → String
  | ⟨offset, some n⟩ => s!"invalid utf-8 sequence of {n} bytes from index {offset}"
  | ⟨offset, none⟩ => s!"incomplete utf-8 byte sequence from index {offset}"

def isTail (b : UInt8) : Bool := 0x80 ≤ b && b ≤ 0xBF

/-- The second byte of a sequence excludes overlong forms, surrogates and values past U+10FFFF. -/
def isSecond (lead b : UInt8) : Bool :=
  if lead = 0xE0 then 0xA0 ≤ b && b ≤ 0xBF
  else if lead = 0xED then 0x80 ≤ b && b ≤ 0x9F
  else if lead = 0xF0 then 0x90 ≤ b && b ≤ 0xBF
  else if lead = 0xF4 then 0x80 ≤ b && b ≤ 0x8F
  else isTail b

def tailBits (b : UInt8) : Nat := b.toNat % 64

def decodeFrom (offset : Nat) (seen : List Char) : Bytes → Except Fault (List Char)
  | [] => .ok seen.reverse
  | a :: r =>
    if a < 0x80 then decodeFrom (offset + 1) (Char.ofNat a.toNat :: seen) r
    else if a < 0xC2 || 0xF4 < a then .error ⟨offset, some 1⟩
    else match r with
      | [] => .error ⟨offset, none⟩
      | b :: r =>
        if !isSecond a b then .error ⟨offset, some 1⟩
        else if a < 0xE0 then
          decodeFrom (offset + 2) (Char.ofNat (a.toNat % 32 * 64 + tailBits b) :: seen) r
        else match r with
          | [] => .error ⟨offset, none⟩
          | c :: r =>
            if !isTail c then .error ⟨offset, some 2⟩
            else if a < 0xF0 then
              decodeFrom (offset + 3)
                (Char.ofNat ((a.toNat % 16 * 64 + tailBits b) * 64 + tailBits c) :: seen) r
            else match r with
              | [] => .error ⟨offset, none⟩
              | d :: r =>
                if !isTail d then .error ⟨offset, some 3⟩
                else decodeFrom (offset + 4)
                  (Char.ofNat (((a.toNat % 8 * 64 + tailBits b) * 64 + tailBits c) * 64
                    + tailBits d) :: seen) r

def decode (bs : Bytes) : Except Fault (List Char) := decodeFrom 0 [] bs

def decodeString (bs : Bytes) : Except Fault String := (decode bs).map String.ofList

end Utf8
end XmppStream
