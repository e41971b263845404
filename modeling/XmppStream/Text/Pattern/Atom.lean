import XmppStream.Text.Numeral
import XmppStream.Text.Pattern.Mode

/-! Single characters and escapes in regular expressions. Nothing is allowed that would need tables
of Unicode or could match a part of a character. -/

namespace XmppStream.Pattern

inductive Atom where
  | letter (c : Char)
  | set
  | edge
deriving DecidableEq, Repr

def code? (digits : List Char) : Option Char :=
  match Numeral.read 16 0x110000 digits with
  | .ok n => if n.isValidChar then some (Char.ofNat n) else none
  | .error _ => none

def controls : List (Char × Char) :=
  [('a', '\x07'), ('f', '\x0c'), ('n', '\n'), ('r', '\r'), ('t', '\t'), ('v', '\x0b')]

/-- An escape without arguments. Punctuation stands for itself. Digits, blanks, the characters of
words and their bounds are known among bytes alone. -/
def simpleEscape? (m : Mode) (c : Char) : Option Atom :=
  match controls.find? (·.1 = c) with
  | some (_, control) => some (.letter control)
  | none =>
    if c ∈ ['d', 's', 'w'] then if m.unicode then none else some .set
    else if c ∈ ['b', 'B', '<', '>'] then if m.unicode then none else some .edge
    else if c = 'A' ∨ c = 'z' then some .edge
    else if c.isAlphanum ∨ 128 ≤ c.toNat then none
    else some (.letter c)

def digitCount : Char → Nat
  | 'x' => 2
  | 'u' => 4
  | 'U' => 8
  | _ => 0

def atom? (m : Mode) (c : Char) : List Char → Option Atom
  | [] => simpleEscape? m c
  | digits =>
    match code? digits with
    | none => none
    | some letter =>
      if m.unicode || c ≠ 'x' || letter.toNat < 128 then some (.letter letter) else none

def digits? (m : Mode) : Nat → List Char → Option (List Char × List Char)
  | 0, cs => some ([], cs)
  | count + 1, cs =>
    match m.skip cs with
    | [] => none
    | digit :: r => (digits? m count r).map fun (digits, r) => (digit :: digits, r)

theorem length_digits_le {m : Mode} {count : Nat} {cs digits rest : List Char}
    (h : digits? m count cs = some (digits, rest)) : rest.length ≤ cs.length := by
  induction count generalizing cs digits with
  | zero =>
    cases h
    exact Nat.le_refl _
  | succ count ih =>
    have hskip := m.length_skip_le cs
    rw [digits?] at h
    split at h
    · cases h
    · next digit r hr =>
      rw [hr, List.length_cons] at hskip
      obtain ⟨⟨digits', rest'⟩, htail, hrest⟩ := Option.map_eq_some_iff.1 h
      cases hrest
      have := ih htail
      omega

def escape? (m : Mode) : List Char → Option (Atom × List Char)
  | [] => none
  | c :: r => do
    let (digits, r) ← digits? m (digitCount c) r
    let atom ← atom? m c digits
    return (atom, r)

theorem length_escape_lt {m : Mode} {cs rest : List Char} {a : Atom}
    (h : escape? m cs = some (a, rest)) : rest.length < cs.length := by
  cases cs with
  | nil => cases h
  | cons c r =>
    obtain ⟨⟨digits, r'⟩, hdigits, h⟩ := Option.bind_eq_some_iff.1 h
    obtain ⟨atom, _, h⟩ := Option.bind_eq_some_iff.1 h
    cases h
    exact Nat.lt_succ_of_le (length_digits_le hdigits)

def item? (m : Mode) : List Char → Option (Atom × List Char)
  | [] => none
  | c :: r => if c = '\\' then escape? m r else some (.letter c, r)

theorem length_item_lt {m : Mode} {cs rest : List Char} {a : Atom}
    (h : item? m cs = some (a, rest)) : rest.length < cs.length := by
  cases cs with
  | nil => cases h
  | cons c r =>
    rw [item?] at h
    split at h
    · have := length_escape_lt h
      rw [List.length_cons]
      omega
    · cases h
      exact Nat.lt_succ_self _

end XmppStream.Pattern
