import XmppStream.Text.Basic
import XmppStream.Text.Pattern

/-! Directives of a log filter, `target[span{field=value}]=level`. Of these parts some may be
missing, and a level may stand alone. -/

namespace XmppStream.Directive

def levelNames : List (List Char) :=
  ["trace", "debug", "info", "warn", "error", "off"].map String.toList

def isLevel (cs : List Char) : Bool :=
  let digits := match cs with
    | '+' :: r => r
    | r => r
  match Numeral.read 10 18446744073709551616 digits with
  | .ok n => n ≤ 5
  | .error _ => levelNames.contains (cs.map Char.toLower)

def isExponent : List Char → Bool
  | [] => true
  | e :: r =>
    let digits := match r with
      | '+' :: r => r
      | '-' :: r => r
      | r => r
    (e = 'e' || e = 'E') && digits ≠ [] && digits.all Char.isDigit

def isDecimal (cs : List Char) : Bool :=
  match cs.dropWhile Char.isDigit with
  | '.' :: r =>
    (cs.takeWhile Char.isDigit ++ r.takeWhile Char.isDigit) ≠ []
      && isExponent (r.dropWhile Char.isDigit)
  | r => cs.takeWhile Char.isDigit ≠ [] && isExponent r

def numberNames : List (List Char) := ["inf", "infinity", "nan"].map String.toList

def isNumber (cs : List Char) : Bool := isDecimal cs || numberNames.contains (cs.map Char.toLower)

/-- A value is a number or a pattern. No number but one with a plus sign fails to be a pattern. -/
def isValue : List Char → Bool
  | '+' :: r => isNumber r
  | cs => Pattern.valid cs

def isField (cs : List Char) : Bool :=
  match partsAt '=' cs with
  | _ :: value :: _ => isValue value
  | _ => cs ≠ []

inductive Place where
  | start
  | target
  | span
  | field (first : Nat)
  | fields
  | closed
  | level (first : Nat)
deriving DecidableEq, Repr

def Place.step? (whole : List Char) (p : Place) (place : Nat) (c : Char) : Option Place :=
  match p with
  | .start =>
    if c = '[' then some .span
    else if c = '-' ∨ c = ':' ∨ c = '_' ∨ isAlphanumeric c then some .target
    else none
  | .target =>
    if c = '=' then some (.level (place + 1)) else if c = '[' then some .span else some .target
  | .span =>
    if c = ']' then some .closed else if c = '{' then some (.field (place + 1)) else some .span
  | .field first =>
    if c ≠ '}' then some (.field first)
    else if (slice? first place whole).any isField then some .fields
    else none
  | .fields => if c = ']' then some .closed else none
  | .closed => if c = '=' then some (.level (place + 1)) else none
  | .level first => some (.level first)

def Place.run? (whole : List Char) : Place → Nat → List Char → Option Place
  | p, _, [] => some p
  | p, place, c :: r =>
    (p.step? whole place c).bind fun p => Place.run? whole p (place + c.utf8Size) r

/-- A directive is read without the blanks at its ends, but its fields and its level are taken from
the same places of the directive with them, and a level up to its end. So a level after blanks, or
before them, is none. -/
def valid (cs : List Char) : Bool :=
  match Place.run? cs .start 0 (trimChars cs) with
  | some .target => true
  | some .closed => true
  | some (.level first) => (splitBytes? first cs).any fun (_, text) => text = [] || isLevel text
  | _ => false

end XmppStream.Directive
