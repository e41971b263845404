import XmppStream.Text.Pattern.Atom

/-! Sets of characters in brackets: what follows a set, and how deep the set is. -/

namespace XmppStream.Pattern

def depthBound : Nat := 250

def rowDepth : List Nat → Nat
  | [] => 0
  | [depth] => depth
  | depths => depths.foldl max 0 + 1

/-- A part of one or two parts. -/
def pairDepth (left : Option Nat) (right : Nat) : Nat :=
  match left with
  | none => right
  | some left => max left right + 1

def Atom.allowed (m : Mode) : Atom → Bool
  | .letter c => m.allowsLetters && (m.unicode || c.toNat < 128)
  | .set => true
  | .edge => false

/-- An item, or a range of characters from one to another that is not before it. A hyphen at the
end of a set or before another hyphen makes no range. -/
def range? (m : Mode) (cs : List Char) : Option (List Char) := do
  let (first, r) ← item? m cs
  match m.skip r with
  | '-' :: r =>
    if m.ahead? r = some ']' ∨ m.ahead? r = some '-' then
      if first.allowed m then some ('-' :: r) else none
    else
      match first, item? m (m.skip r) with
      | .letter a, some (.letter b, r) =>
        if a ≤ b ∧ (Atom.letter b).allowed m then some r else none
      | _, _ => none
  | r => if first.allowed m then some r else none

theorem length_range_lt {m : Mode} {cs rest : List Char} (h : range? m cs = some rest) :
    rest.length < cs.length := by
  obtain ⟨⟨first, r⟩, hitem, h⟩ := Option.bind_eq_some_iff.1 h
  have hlt := length_item_lt hitem
  have hskip := m.length_skip_le r
  simp only at h
  split at h
  · next r' hr =>
    rw [hr, List.length_cons] at hskip
    split at h
    · split at h
      · cases h
        rw [List.length_cons]
        omega
      · cases h
    · split at h
      · next a b r'' hsecond =>
        have := length_item_lt hsecond
        have := m.length_skip_le r'
        split at h
        · cases h
          omega
        · cases h
      · cases h
  · split at h
    · cases h
      omega
    · cases h

def setNames : List (List Char) :=
  ["alnum", "alpha", "ascii", "blank", "cntrl", "digit", "graph", "lower", "print", "punct",
    "space", "upper", "word", "xdigit"].map String.toList

def afterSetName? (cs : List Char) : Option (List Char) :=
  match cs.dropWhile (· ≠ ':') with
  | ':' :: ']' :: rest => if setNames.contains (cs.takeWhile (· ≠ ':')) then some rest else none
  | _ => none

theorem length_afterSetName_le {cs rest : List Char} (h : afterSetName? cs = some rest) :
    rest.length ≤ cs.length := by
  have hle := (List.dropWhile_suffix (p := (· ≠ ':')) (l := cs)).length_le
  rw [afterSetName?] at h
  split at h
  · next rest' hdrop =>
    rw [hdrop, List.length_cons, List.length_cons] at hle
    split at h
    · cases h
      omega
    · cases h
  · cases h

def named? : List Char → Option (Bool × List Char)
  | ':' :: '^' :: r => (afterSetName? r).map (true, ·)
  | ':' :: r => (afterSetName? r).map (false, ·)
  | _ => none

theorem length_named_le {cs rest : List Char} {negated : Bool}
    (h : named? cs = some (negated, rest)) : rest.length ≤ cs.length := by
  rw [named?.eq_def] at h
  split at h
  · obtain ⟨rest', hname, hrest⟩ := Option.map_eq_some_iff.1 h
    cases hrest
    have := length_afterSetName_le hname
    simp only [List.length_cons]
    omega
  · obtain ⟨rest', hname, hrest⟩ := Option.map_eq_some_iff.1 h
    cases hrest
    have := length_afterSetName_le hname
    rw [List.length_cons]
    omega
  · cases h

def firstItems (m : Mode) (items : List Nat) (cs : List Char) : List Nat × List Char :=
  match cs with
  | [] => (items, [])
  | c :: r =>
    if c = '-' then firstItems m (0 :: items) (m.skip r)
    else if c = ']' ∧ items = [] then ([0], r)
    else (items, c :: r)
termination_by cs.length
decreasing_by exact Nat.lt_succ_of_le (m.length_skip_le r)

theorem length_firstItems_le (m : Mode) (items : List Nat) (cs : List Char) :
    (firstItems m items cs).2.length ≤ cs.length := by
  fun_induction firstItems m items cs with
  | case1 => exact Nat.le_refl _
  | case2 items r ih =>
    have := m.length_skip_le r
    rw [List.length_cons]
    omega
  | case3 => exact Nat.le_succ _
  | case4 => exact Nat.le_refl _

def afterSign (m : Mode) (cs : List Char) : List Char :=
  match m.skip cs with
  | '^' :: r => m.skip r
  | r => r

theorem length_afterSign_le (m : Mode) (cs : List Char) :
    (afterSign m cs).length ≤ cs.length := by
  have hskip := m.length_skip_le cs
  rw [afterSign]
  split
  · next r hr =>
    have := m.length_skip_le r
    rw [hr, List.length_cons] at hskip
    omega
  · exact hskip

def opened? (m : Mode) (cs : List Char) : Option (List Nat × List Char) :=
  let opened := firstItems m [] (afterSign m cs)
  if (m.skip cs).head? = some '^' ∧ !m.unicode then none
  else if opened.1 ≠ [] ∧ !m.allowsLetters then none
  else some opened

theorem length_opened_le {m : Mode} {cs rest : List Char} {items : List Nat}
    (h : opened? m cs = some (items, rest)) : rest.length ≤ cs.length := by
  have hfirst := length_firstItems_le m [] (afterSign m cs)
  have hsign := length_afterSign_le m cs
  rw [opened?] at h
  split at h
  · cases h
  · split at h
    · cases h
    · rw [Option.some.inj h] at hfirst
      exact Nat.le_trans hfirst hsign

/-- An open set: how deep the operations before its last operand are, if there are any, and the
items of that. -/
structure OpenSet where
  left : Option Nat := none
  items : List Nat
deriving DecidableEq, Repr

namespace OpenSet

def depth (s : OpenSet) : Nat := pairDepth s.left (rowDepth s.items)

def add (s : OpenSet) (depth : Nat) : OpenSet := { s with items := depth :: s.items }

end OpenSet

def isOperation (a b : Char) : Bool := a = b && (a = '&' || a = '-' || a = '~')

/-- How deep a set is, and what follows it. The set `s` is being read, and `outer` are open around
it. -/
def afterSet? (m : Mode) (outer : List OpenSet) (s : OpenSet) (cs : List Char) :
    Option (Nat × List Char) :=
  match _hskip : m.skip cs with
  | [] => none
  | c :: r =>
    if c = ']' then
      match outer with
      | [] => some (s.depth + 1, r)
      | around :: outer => afterSet? m outer (around.add (s.depth + 1)) r
    else if c = '[' then
      match _h : named? r with
      | some (negated, rest) =>
        if m.allowsLetters && (m.unicode || !negated) then afterSet? m outer (s.add 0) rest
        else none
      | none =>
        match _h : opened? m r with
        | none => none
        | some (items, rest) => afterSet? m (s :: outer) { items } rest
    else if r.head?.any (isOperation c) then
      afterSet? m outer { left := some s.depth, items := [] } r.tail
    else
      match _h : range? m (c :: r) with
      | none => none
      | some rest => afterSet? m outer (s.add 0) rest
termination_by cs.length
decreasing_by
  all_goals
    have hle := m.length_skip_le cs
    rw [_hskip, List.length_cons] at hle
  · exact hle
  · have := length_named_le _h
    omega
  · have := length_opened_le _h
    omega
  · rw [List.length_tail]
    omega
  · have := length_range_lt _h
    rw [List.length_cons] at this
    omega

theorem length_afterSet_lt {m : Mode} {outer : List OpenSet} {s : OpenSet} {cs rest : List Char}
    {depth : Nat} (h : afterSet? m outer s cs = some (depth, rest)) :
    rest.length < cs.length := by
  have hle := m.length_skip_le cs
  fun_induction afterSet? m outer s cs with
  | case1 => cases h
  | case2 s cs r hskip =>
    cases h
    rw [hskip] at hle
    exact hle
  | case3 s cs r around outer hskip ih =>
    have := ih h (m.length_skip_le r)
    rw [hskip, List.length_cons] at hle
    omega
  | case4 outer s cs r negated r' hnamed _ hskip _ ih =>
    have := ih h (m.length_skip_le r')
    have := length_named_le hnamed
    rw [hskip, List.length_cons] at hle
    omega
  | case5 => cases h
  | case6 => cases h
  | case7 outer s cs r _ items r' hopened hskip _ ih =>
    have := ih h (m.length_skip_le r')
    have := length_opened_le hopened
    rw [hskip, List.length_cons] at hle
    omega
  | case8 outer s cs c r hskip _ _ _ ih =>
    have := ih h (m.length_skip_le r.tail)
    rw [List.length_tail] at this
    rw [hskip, List.length_cons] at hle
    omega
  | case9 => cases h
  | case10 outer s cs c r hskip _ _ _ r' hrange ih =>
    have := ih h (m.length_skip_le r')
    have := length_range_lt hrange
    rw [hskip] at hle
    omega

def set? (m : Mode) (cs : List Char) : Option (Nat × List Char) := do
  let (items, r) ← opened? m cs
  afterSet? m [] { items } r

theorem length_set_lt {m : Mode} {cs rest : List Char} {depth : Nat}
    (h : set? m cs = some (depth, rest)) : rest.length < cs.length := by
  obtain ⟨⟨items, r⟩, hopened, h⟩ := Option.bind_eq_some_iff.1 h
  have := length_opened_le hopened
  have := length_afterSet_lt h
  omega

end XmppStream.Pattern
