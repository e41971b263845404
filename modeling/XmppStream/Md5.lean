import XmppStream.Text.Utf8

/-! The MD5 digest of a byte sequence, and digests in hexadecimal. -/

namespace XmppStream.Md5

/-- Term `n` is the integer part of `2 ^ 32` times the sine of `n + 1`, without its sign. -/
def sines : Array UInt32 := #[
  0xD76AA478, 0xE8C7B756, 0x242070DB, 0xC1BDCEEE, 0xF57C0FAF, 0x4787C62A, 0xA8304613, 0xFD469501,
  0x698098D8, 0x8B44F7AF, 0xFFFF5BB1, 0x895CD7BE, 0x6B901122, 0xFD987193, 0xA679438E, 0x49B40821,
  0xF61E2562, 0xC040B340, 0x265E5A51, 0xE9B6C7AA, 0xD62F105D, 0x02441453, 0xD8A1E681, 0xE7D3FBC8,
  0x21E1CDE6, 0xC33707D6, 0xF4D50D87, 0x455A14ED, 0xA9E3E905, 0xFCEFA3F8, 0x676F02D9, 0x8D2A4C8A,
  0xFFFA3942, 0x8771F681, 0x6D9D6122, 0xFDE5380C, 0xA4BEEA44, 0x4BDECFA9, 0xF6BB4B60, 0xBEBFBC70,
  0x289B7EC6, 0xEAA127FA, 0xD4EF3085, 0x04881D05, 0xD9D4D039, 0xE6DB99E5, 0x1FA27CF8, 0xC4AC5665,
  0xF4292244, 0x432AFF97, 0xAB9423A7, 0xFC93A039, 0x655B59C3, 0x8F0CCC92, 0xFFEFF47D, 0x85845DD1,
  0x6FA87E4F, 0xFE2CE6E0, 0xA3014314, 0x4E0811A1, 0xF7537E82, 0xBD3AF235, 0x2AD7D2BB, 0xEB86D391]

def rotations : Array UInt32 := #[7, 12, 17, 22, 5, 9, 14, 20, 4, 11, 16, 23, 6, 10, 15, 21]

structure State where
  a : UInt32
  b : UInt32
  c : UInt32
  d : UInt32
deriving DecidableEq, Repr

def State.start : State := ⟨0x67452301, 0xEFCDAB89, 0x98BADCFE, 0x10325476⟩

def State.add (s t : State) : State := ⟨s.a + t.a, s.b + t.b, s.c + t.c, s.d + t.d⟩

def rotateLeft (x n : UInt32) : UInt32 := (x <<< n) ||| (x >>> (32 - n))

def State.step (block : Array UInt32) (s : State) (i : Nat) : State :=
  let (mixed, word) :=
    if i < 16 then ((s.b &&& s.c) ||| (~~~s.b &&& s.d), i)
    else if i < 32 then ((s.d &&& s.b) ||| (~~~s.d &&& s.c), (5 * i + 1) % 16)
    else if i < 48 then (s.b ^^^ s.c ^^^ s.d, (3 * i + 5) % 16)
    else (s.c ^^^ (s.b ||| ~~~s.d), 7 * i % 16)
  let sum := mixed + s.a + sines.getD i 0 + block.getD word 0
  ⟨s.d, s.b + rotateLeft sum (rotations.getD (i / 16 * 4 + i % 4) 0), s.b, s.c⟩

def words : Bytes → List UInt32
  | a :: b :: c :: d :: r =>
    (a.toUInt32 ||| (b.toUInt32 <<< 8) ||| (c.toUInt32 <<< 16) ||| (d.toUInt32 <<< 24)) :: words r
  | _ => []

def State.block (s : State) (bytes : Bytes) : State :=
  s.add ((List.range 64).foldl (State.step (words bytes).toArray) s)

def State.blocks (s : State) (bs : Bytes) : State :=
  match bs with
  | [] => s
  | b :: r => (s.block ((b :: r).take 64)).blocks ((b :: r).drop 64)
termination_by bs.length
decreasing_by simp only [List.length_drop, List.length_cons]; omega

def littleEndian (count n : Nat) : Bytes :=
  match count with
  | 0 => []
  | count + 1 => UInt8.ofNat n :: littleEndian count (n / 256)

def padding (size : Nat) : Bytes :=
  0x80 :: List.replicate ((119 - size % 64) % 64) 0 ++ littleEndian 8 (size * 8)

def digest (bs : Bytes) : Bytes :=
  let s := State.start.blocks (bs ++ padding bs.length)
  [s.a, s.b, s.c, s.d].flatMap fun word => littleEndian 4 word.toNat

def hexDigit (n : Nat) : Char := if n < 10 then Char.ofNat (48 + n) else Char.ofNat (87 + n)

def hexChars (bs : Bytes) : List Char :=
  bs.flatMap fun b => [hexDigit (b.toNat / 16), hexDigit (b.toNat % 16)]

def hexDigest (bs : Bytes) : String := String.ofList (hexChars (digest bs))

end XmppStream.Md5
