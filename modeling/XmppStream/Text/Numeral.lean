/-! Numerals: digits in a radix up to 16, for numbers below a bound. -/

namespace XmppStream.Numeral

inductive Fault where
  | empty
  | digit
  | tooLarge
deriving DecidableEq, Repr

def Fault.message : Fault → String
  | .empty => "cannot parse integer from empty string"
  | .digit => "invalid digit found in string"
  | .tooLarge => "number too large to fit in target type"

def digit? (radix : Nat) (c : Char) : Option Nat :=
  let value :=
    if '0' ≤ c ∧ c ≤ '9' then c.toNat - '0'.toNat
    else if 'a' ≤ c ∧ c ≤ 'f' then c.toNat - 'a'.toNat + 10
    else if 'A' ≤ c ∧ c ≤ 'F' then c.toNat - 'A'.toNat + 10
    else radix
  if value < radix then some value else none

/-- Reads the digits that follow a numeral of value `value`; the first fault from the left counts. -/
def readFrom (radix bound value : Nat) : List Char → Except Fault Nat
  | [] => .ok value
  | c :: r =>
    match digit? radix c with
    | none => .error .digit
    | some d =>
      if value * radix + d < bound then readFrom radix bound (value * radix + d) r
      else .error .tooLarge

def read (radix bound : Nat) : List Char → Except Fault Nat
  | [] => .error .empty
  | cs => readFrom radix bound 0 cs

end XmppStream.Numeral
