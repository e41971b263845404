import XmppStream.Text.Pattern.Opening
import XmppStream.Text.Pattern.Set

/-! Regular expressions in which no brace is closed after one is opened, as far as telling which are
well formed. There is no counted repetition then, and a closing brace stands for itself. -/

namespace XmppStream.Pattern

def afterLazy : List Char → List Char
  | '?' :: r => r
  | r => r

theorem length_afterLazy_le (cs : List Char) : (afterLazy cs).length ≤ cs.length := by
  rw [afterLazy.eq_def]
  split
  · simp
  · exact Nat.le_refl _

structure Group where
  mode : Mode
  branches : List Nat := []
  row : List Nat := []
  operand : Bool := false
deriving DecidableEq, Repr

namespace Group

def depth (g : Group) : Nat := rowDepth (rowDepth g.row :: g.branches)

def add (g : Group) (depth : Nat) : Group := { g with row := depth :: g.row, operand := true }

def addFlags (g : Group) (flags : List Char) : Group :=
  { g with mode := g.mode.set flags, row := 0 :: g.row, operand := false }

def branch (g : Group) : Group :=
  { mode := g.mode, branches := rowDepth g.row :: g.branches }

def repeated? (g : Group) : Option Group :=
  match g.operand, g.row with
  | true, depth :: row => some { g with row := (depth + 1) :: row }
  | _, _ => none

end Group

/-- Whether the rest of an expression is well formed. The group `g` is being read, `outer` are open
around it, and `names` are given to groups. -/
def validFrom (names : List (List Char)) (outer : List Group) (g : Group) (cs : List Char) :
    Bool :=
  match _hskip : g.mode.skip cs with
  | [] => outer = [] && g.depth ≤ depthBound
  | c :: r =>
    if c = '(' then
      match _h : opening? (g.mode.skip r) with
      | none => false
      | some (.flags flags, rest) => validFrom names outer (g.addFlags flags) rest
      | some (.group name flags, rest) =>
        !name.any names.contains
          && validFrom (name.toList ++ names) (g :: outer) { mode := g.mode.set flags } rest
    else if c = ')' then
      match outer with
      | [] => false
      | around :: outer => validFrom names outer (around.add (g.depth + 1)) r
    else if c = '|' then validFrom names outer g.branch r
    else if c = '*' ∨ c = '+' ∨ c = '?' then
      match g.repeated? with
      | none => false
      | some repeated => validFrom names outer repeated (afterLazy r)
    else if c = '{' then false
    else if c = '^' ∨ c = '$' then validFrom names outer (g.add 0) r
    else if c = '.' then g.mode.unicode && validFrom names outer (g.add 0) r
    else if c = '[' then
      match _h : set? g.mode r with
      | none => false
      | some (depth, rest) => validFrom names outer (g.add depth) rest
    else
      match _h : item? g.mode (c :: r) with
      | none => false
      | some (.letter _, rest) => g.mode.allowsLetters && validFrom names outer (g.add 0) rest
      | some (_, rest) => validFrom names outer (g.add 0) rest
termination_by cs.length
decreasing_by
  all_goals
    have hle := g.mode.length_skip_le cs
    rw [_hskip, List.length_cons] at hle
  · have := length_opening_le _h
    have := g.mode.length_skip_le r
    omega
  · have := length_opening_le _h
    have := g.mode.length_skip_le r
    omega
  · exact hle
  · exact hle
  · have := length_afterLazy_le r
    omega
  · exact hle
  · exact hle
  · have := length_set_lt _h
    omega
  · have := length_item_lt _h
    rw [List.length_cons] at this
    omega
  · have := length_item_lt _h
    rw [List.length_cons] at this
    omega

def valid (cs : List Char) : Bool := validFrom [] [] { mode := {} } cs

end XmppStream.Pattern
