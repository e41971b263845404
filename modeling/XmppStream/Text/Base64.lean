import XmppStream.Text.Utf8

/-! Base64 with the standard alphabet and padding. Decoding accepts the canonical form alone:
complete groups of four, padding only at the end, and no stray bits under it. -/

namespace XmppStream.Base64

def letter (n : Nat) : Char :=
  if n < 26 then Char.ofNat (65 + n)
  else if n < 52 then Char.ofNat (71 + n)
  else if n < 62 then Char.ofNat (n - 4)
  else if n = 62 then '+'
  else '/'

def value? (c : Char) : Option Nat :=
  if 'A' ≤ c ∧ c ≤ 'Z' then some (c.toNat - 65)
  else if 'a' ≤ c ∧ c ≤ 'z' then some (c.toNat - 71)
  else if '0' ≤ c ∧ c ≤ '9' then some (c.toNat + 4)
  else if c = '+' then some 62
  else if c = '/' then some 63
  else none

def encodeChars : Bytes → List Char
  | [] => []
  | [a] => [letter (a.toNat / 4), letter (a.toNat % 4 * 16), '=', '=']
  | [a, b] =>
    [letter (a.toNat / 4), letter (a.toNat % 4 * 16 + b.toNat / 16), letter (b.toNat % 16 * 4), '=']
  | a :: b :: c :: r =>
    letter (a.toNat / 4) :: letter (a.toNat % 4 * 16 + b.toNat / 16)
      :: letter (b.toNat % 16 * 4 + c.toNat / 64) :: letter (c.toNat % 64) :: encodeChars r

def encode (bs : Bytes) : String := String.ofList (encodeChars bs)

def decodeOne? (v w : Nat) : Option Bytes :=
  if w % 16 = 0 then some [UInt8.ofNat (v * 4 + w / 16)] else none

def decodeTwo? (v w x : Nat) : Option Bytes :=
  if x % 4 = 0 then some [UInt8.ofNat (v * 4 + w / 16), UInt8.ofNat (w % 16 * 16 + x / 4)]
  else none

def decodeThree (v w x y : Nat) : Bytes :=
  [UInt8.ofNat (v * 4 + w / 16), UInt8.ofNat (w % 16 * 16 + x / 4), UInt8.ofNat (x % 4 * 64 + y)]

def decodeChars? : List Char → Option Bytes
  | [] => some []
  | a :: b :: c :: d :: r =>
    match value? a, value? b with
    | some v, some w =>
      if c = '=' then if d = '=' ∧ r = [] then decodeOne? v w else none
      else match value? c with
        | none => none
        | some x =>
          if d = '=' then if r = [] then decodeTwo? v w x else none
          else match value? d with
            | none => none
            | some y => (decodeChars? r).map (decodeThree v w x y ++ ·)
    | _, _ => none
  | _ => none

def decode? (s : String) : Option Bytes := decodeChars? s.toList

end XmppStream.Base64
