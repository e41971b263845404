import XmppStream.Text.Numeral

/-! Tokens of JSON text. Strings keep whether their escapes form characters: one with half of a
surrogate pair is well formed, but has no text. -/

namespace XmppStream.Json

inductive Token where
  | openObject | closeObject | openArray | closeArray
  | comma | colon
  | null
  | bool (value : Bool)
  | number (digits : List Char)
  | string (text : Option String)
deriving DecidableEq, Repr

def isBlank (c : Char) : Bool := c = ' ' || c = '\t' || c = '\n' || c = '\r'

def isDigit (c : Char) : Bool := '0' ≤ c && c ≤ '9'

def shortEscape? (c : Char) : Option Nat :=
  if c = '"' then some 0x22
  else if c = '\\' then some 0x5C
  else if c = '/' then some 0x2F
  else if c = 'b' then some 0x08
  else if c = 'f' then some 0x0C
  else if c = 'n' then some 0x0A
  else if c = 'r' then some 0x0D
  else if c = 't' then some 0x09
  else none

def fourHex? (a b c d : Char) : Option Nat :=
  match Numeral.digit? 16 a, Numeral.digit? 16 b, Numeral.digit? 16 c, Numeral.digit? 16 d with
  | some a, some b, some c, some d => some (((a * 16 + b) * 16 + c) * 16 + d)
  | _, _, _, _ => none

inductive Piece where
  | char (c : Char)
  | unit (code : Nat)
deriving DecidableEq, Repr

/-- The text of the pieces, the latest first, with `after` behind it. A high surrogate needs a low
one right after it, and a low one a high one right before it. -/
def textOf? (after : List Char) : List Piece → Option (List Char)
  | [] => some after
  | .char c :: r => textOf? (c :: after) r
  | .unit low :: r =>
    if 0xDC00 ≤ low ∧ low ≤ 0xDFFF then
      match r with
      | .unit high :: r =>
        if 0xD800 ≤ high ∧ high ≤ 0xDBFF then
          textOf? (Char.ofNat (0x10000 + (high - 0xD800) * 0x400 + (low - 0xDC00)) :: after) r
        else none
      | _ => none
    else if 0xD800 ≤ low ∧ low ≤ 0xDBFF then none
    else textOf? (Char.ofNat low :: after) r

def splitString (seen : List Piece) : List Char → Option (List Piece × List Char)
  | [] => none
  | '"' :: r => some (seen, r)
  | '\\' :: 'u' :: a :: b :: c :: d :: r =>
    match fourHex? a b c d with
    | none => none
    | some code => splitString (.unit code :: seen) r
  | '\\' :: c :: r =>
    match shortEscape? c with
    | none => none
    | some code => splitString (.unit code :: seen) r
  | c :: r => if c = '\\' ∨ c.toNat < 0x20 then none else splitString (.char c :: seen) r

def validTail (cs : List Char) : Bool :=
  let afterFraction : Option (List Char) :=
    match cs with
    | '.' :: d :: r => if isDigit d then some (r.dropWhile isDigit) else none
    | '.' :: [] => none
    | cs => some cs
  match afterFraction with
  | none => false
  | some [] => true
  | some (e :: r) =>
    let digits := match r with
      | '+' :: r => r
      | '-' :: r => r
      | r => r
    (e = 'e' || e = 'E') && digits ≠ [] && digits.all isDigit

def validNumber (cs : List Char) : Bool :=
  let unsigned := match cs with
    | '-' :: r => r
    | cs => cs
  match unsigned with
  | '0' :: r => validTail r
  | d :: r => isDigit d && validTail (r.dropWhile isDigit)
  | [] => false

def isNumberChar (c : Char) : Bool :=
  isDigit c || c = '-' || c = '+' || c = '.' || c = 'e' || c = 'E'

def front (c : Char) (r : List Char) : Option (Token × List Char) :=
  if c = '\x7b' then some (.openObject, r)
  else if c = '\x7d' then some (.closeObject, r)
  else if c = '[' then some (.openArray, r)
  else if c = ']' then some (.closeArray, r)
  else if c = ',' then some (.comma, r)
  else if c = ':' then some (.colon, r)
  else if c = '"' then
    (splitString [] r).map fun (pieces, rest) =>
      (.string ((textOf? [] pieces).map String.ofList), rest)
  else if isNumberChar c then
    if validNumber (c :: r.takeWhile isNumberChar) then
      some (.number (c :: r.takeWhile isNumberChar), r.dropWhile isNumberChar)
    else none
  else match c, r with
    | 'n', 'u' :: 'l' :: 'l' :: r => some (.null, r)
    | 't', 'r' :: 'u' :: 'e' :: r => some (.bool true, r)
    | 'f', 'a' :: 'l' :: 's' :: 'e' :: r => some (.bool false, r)
    | _, _ => none

theorem splitString_length_le {seen pieces : List Piece} {cs rest : List Char}
    (h : splitString seen cs = some (pieces, rest)) : rest.length ≤ cs.length := by
  fun_induction splitString seen cs <;> simp_all <;> omega

theorem front_length_le {c : Char} {r rest : List Char} {t : Token}
    (h : front c r = some (t, rest)) : rest.length ≤ r.length := by
  have drop := (List.dropWhile_suffix isNumberChar (l := r)).length_le
  rw [front.eq_def] at h
  repeat' split at h
  all_goals try cases h
  all_goals try simp only [List.length_cons]
  all_goals try omega
  cases hs : splitString [] r with
  | none => rw [hs] at h; cases h
  | some split =>
    rw [hs] at h
    cases h
    exact splitString_length_le hs

def tokensFrom (seen : List Token) (cs : List Char) : Option (List Token) :=
  match _h : cs.dropWhile isBlank with
  | [] => some seen.reverse
  | c :: r =>
    match _h' : front c r with
    | none => none
    | some (t, rest) => tokensFrom (t :: seen) rest
termination_by cs.length
decreasing_by
  have skip := (List.dropWhile_suffix isBlank (l := cs)).length_le
  have := front_length_le _h'
  rw [_h] at skip
  simp only [List.length_cons] at skip
  omega

def tokens (s : String) : Option (List Token) := tokensFrom [] s.toList

end XmppStream.Json
