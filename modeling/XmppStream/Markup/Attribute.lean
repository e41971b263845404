import XmppStream.Markup.Token

/-! The content of a tag: its name, then attributes, each a key, an equals sign and a value in
quotation marks. Places in faults count bytes from the first byte of the name. -/

namespace XmppStream.Markup

structure RawAttribute where
  key : Bytes
  value : Bytes
  start : Nat
deriving DecidableEq, Repr

inductive AttributeFault where
  | noEquals (place : Nat)
  | noValue (place : Nat)
  | unquoted (place : Nat)
  | unclosed (place : Nat) (quote : Char)
  | duplicate (place previous : Nat)
deriving DecidableEq, Repr

def AttributeFault.message : AttributeFault → String
  | .noEquals place =>
    s!"position {place}: attribute key must be directly followed by `=` or space"
  | .noValue place => s!"position {place}: `=` must be followed by an attribute value"
  | .unquoted place => s!"position {place}: attribute value must be enclosed in `\"` or `'`"
  | .unclosed place quote => s!"position {place}: missing closing quote `{quote}` in attribute value"
  | .duplicate place previous =>
    s!"position {place}: duplicated attribute, previous declaration at position {previous}"

def skipBlanks (bs : Bytes) : Bytes := bs.dropWhile isBlankByte

def isKeyByte (b : UInt8) : Bool := b != 0x3D && !isBlankByte b

def isEquals (b : UInt8) : Bool := b = 0x3D

def quoteChar (b : UInt8) : Char := if b = 0x22 then '"' else '\''

def splitValue (size : Nat) (bs : Bytes) : Except AttributeFault (Bytes × Bytes) :=
  match bs with
  | [] => .error (.noValue size)
  | q :: r =>
    if isQuote q then
      match r.dropWhile (· != q) with
      | [] => .error (.unclosed size (quoteChar q))
      | _ :: rest => .ok (r.takeWhile (· != q), rest)
    else .error (.unquoted (size - bs.length))

/-- The attribute that begins with `b` and what follows it. The first byte of a key may be any. A
key that is among `seen` is found before the value is looked at. -/
def splitAttribute (size : Nat) (seen : List RawAttribute) (b : UInt8) (r : Bytes) :
    Except AttributeFault (RawAttribute × Bytes) :=
  let key := b :: r.takeWhile isKeyByte
  let start := size - (r.length + 1)
  match skipBlanks (r.dropWhile isKeyByte) with
  | [] => .error (.noEquals size)
  | e :: r =>
    if isEquals e then
      match seen.find? (·.key = key) with
      | some previous => .error (.duplicate start previous.start)
      | none => (splitValue size (skipBlanks r)).map fun (value, rest) => (⟨key, value, start⟩, rest)
    else .error (.noEquals (size - (r.length + 1)))

theorem length_dropWhile_le {α : Type} (p : α → Bool) (l : List α) : (l.dropWhile p).length ≤ l.length :=
  (List.dropWhile_suffix p).length_le

theorem splitValue_rest_lt {size : Nat} {bs value rest : Bytes}
    (h : splitValue size bs = .ok (value, rest)) : rest.length < bs.length := by
  cases bs with
  | nil => cases h
  | cons q r =>
    rw [splitValue] at h
    split at h
    · have := length_dropWhile_le (· != q) r
      split at h <;> cases h
      next e =>
        rw [e] at this
        simp only [List.length_cons] at this ⊢
        omega
    · cases h

theorem splitAttribute_rest_lt {size : Nat} {seen : List RawAttribute} {b : UInt8} {r rest : Bytes}
    {a : RawAttribute} (h : splitAttribute size seen b r = .ok (a, rest)) :
    rest.length < (b :: r).length := by
  rw [splitAttribute] at h
  have drop := length_dropWhile_le isKeyByte r
  have skip := length_dropWhile_le isBlankByte (r.dropWhile isKeyByte)
  simp only at h
  split at h
  · cases h
  · next e r' hr =>
    rw [skipBlanks] at hr
    rw [hr] at skip
    simp only [List.length_cons] at skip ⊢
    split at h
    · split at h
      · cases h
      · cases hv : splitValue size (skipBlanks r') with
        | error e => rw [hv] at h; cases h
        | ok v =>
          rw [hv] at h
          cases h
          have := splitValue_rest_lt hv
          have := length_dropWhile_le isBlankByte r'
          rw [skipBlanks] at *
          omega
    · cases h

/-- The attributes before the first fault, and that fault. `size` is the length of the whole content
and `seen` holds the attributes already read, the latest first. -/
def attributesFrom (size : Nat) (seen : List RawAttribute) (bs : Bytes) :
    List RawAttribute × Option AttributeFault :=
  match _h : skipBlanks bs with
  | [] => (seen.reverse, none)
  | b :: r =>
    match _h' : splitAttribute size seen b r with
    | .error e => (seen.reverse, some e)
    | .ok (a, rest) => attributesFrom size (a :: seen) rest
termination_by bs.length
decreasing_by
  have := splitAttribute_rest_lt _h'
  have skip := length_dropWhile_le isBlankByte bs
  rw [skipBlanks] at _h
  rw [_h] at skip
  omega

def tagName (content : Bytes) : Bytes := content.takeWhile (!isBlankByte ·)

def attributes (content : Bytes) : List RawAttribute × Option AttributeFault :=
  attributesFrom content.length [] (content.dropWhile (!isBlankByte ·))

end XmppStream.Markup
