import XmppStream.Text.Basic

/-! Modes in which parts of a regular expression are read. Flags change them up to the end of a
group. -/

namespace XmppStream.Pattern

structure Mode where
  fold : Bool := false
  unicode : Bool := true
  verbose : Bool := false
deriving DecidableEq, Repr

/-- What follows blanks and comments, where `comment` tells that one is open. A comment goes from a
number sign to the end of the line. -/
def afterBlanks (comment : Bool) : List Char → List Char
  | [] => []
  | c :: r =>
    if comment then afterBlanks (c ≠ '\n') r
    else if isBlank c then afterBlanks false r
    else if c = '#' then afterBlanks true r
    else c :: r

theorem length_afterBlanks_le (comment : Bool) (cs : List Char) :
    (afterBlanks comment cs).length ≤ cs.length := by
  fun_induction afterBlanks comment cs with
  | case1 => exact Nat.le_refl _
  | case2 c r ih => exact Nat.le_succ_of_le ih
  | case3 => exact Nat.le_succ_of_le ‹_›
  | case4 => exact Nat.le_succ_of_le ‹_›
  | case5 => exact Nat.le_refl _

/-- The first character that is not blank, one number sign not counted, from which on there may be
another. -/
def firstVisible? (comment : Bool) : List Char → Option Char
  | [] => none
  | c :: r =>
    if isBlank c then firstVisible? comment r
    else if c = '#' ∧ !comment then firstVisible? true r
    else some c

namespace Mode

def allowsLetters (m : Mode) : Bool := !m.fold || !m.unicode

def set (m : Mode) (flags : List Char) : Mode :=
  let on := flags.takeWhile (· ≠ '-')
  let off := flags.dropWhile (· ≠ '-')
  let turned (flag : Char) (was : Bool) : Bool := on.contains flag || (was && !off.contains flag)
  { fold := turned 'i' m.fold
    unicode := turned 'u' m.unicode
    verbose := turned 'x' m.verbose }

def skip (m : Mode) (cs : List Char) : List Char := if m.verbose then afterBlanks false cs else cs

theorem length_skip_le (m : Mode) (cs : List Char) : (m.skip cs).length ≤ cs.length := by
  rw [skip]
  split
  · exact length_afterBlanks_le false cs
  · exact Nat.le_refl _

/-- The character by which a hyphen before `cs` in a set is judged. -/
def ahead? (m : Mode) (cs : List Char) : Option Char :=
  if m.verbose then (firstVisible? false cs).or cs.head? else cs.head?

end Mode
end XmppStream.Pattern
