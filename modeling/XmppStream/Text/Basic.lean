/-! What texts are cut into and kept in: blank characters and trimming, the parts of a text between
its separators or between two places that are counted in bytes, and tables of text. -/

namespace XmppStream

/-- The 25 characters with the property `White_Space`. -/
def isBlank (c : Char) : Bool :=
  let n := c.toNat
  (0x09 ≤ n && n ≤ 0x0D) || n = 0x20 || n = 0x85 || n = 0xA0 || n = 0x1680
    || (0x2000 ≤ n && n ≤ 0x200A) || n = 0x2028 || n = 0x2029 || n = 0x202F || n = 0x205F
    || n = 0x3000

def isAsciiBlank (c : Char) : Bool :=
  c = ' ' || c = '\t' || c = '\n' || c = '\x0C' || c = '\r'

def dropEnd {α : Type} (p : α → Bool) (l : List α) : List α := (l.reverse.dropWhile p).reverse

theorem dropEnd_eq_self {α : Type} {p : α → Bool} {l : List α} (h : ∀ a ∈ l, p a = false) :
    dropEnd p l = l := by
  have kept : l.reverse.dropWhile p = l.reverse := by
    cases last : l.reverse with
    | nil => rfl
    | cons a r =>
      have mem : a ∈ l := by
        rw [← List.mem_reverse, last]
        exact List.mem_cons_self ..
      rw [List.dropWhile_cons_of_neg (by simp [h a mem])]
  rw [dropEnd, kept, List.reverse_reverse]

def trimChars (cs : List Char) : List Char := dropEnd isBlank (cs.dropWhile isBlank)

theorem trimChars_eq_self {cs : List Char} (h : ∀ c ∈ cs, isBlank c = false) : trimChars cs = cs := by
  have front : cs.dropWhile isBlank = cs := by
    cases cs with
    | nil => rfl
    | cons c r => rw [List.dropWhile_cons_of_neg (by simp [h c (List.mem_cons_self ..)])]
  rw [trimChars, front, dropEnd_eq_self h]

def trim (s : String) : String := String.ofList (trimChars s.toList)

def isBlankText (s : String) : Bool := s.toList.all isBlank

def partsAt (separator : Char) : List Char → List (List Char)
  | [] => [[]]
  | c :: r =>
    if c = separator then [] :: partsAt separator r
    else match partsAt separator r with
      | [] => [[c]]
      | part :: parts => (c :: part) :: parts

def splitBytes? : Nat → List Char → Option (List Char × List Char)
  | 0, cs => some ([], cs)
  | _ + 1, [] => none
  | n + 1, c :: r =>
    if n + 1 < c.utf8Size then none
    else (splitBytes? (n + 1 - c.utf8Size) r).map fun (head, tail) => (c :: head, tail)

def slice? (first last : Nat) (cs : List Char) : Option (List Char) := do
  let (_, r) ← splitBytes? first cs
  let (part, _) ← splitBytes? (last - first) r
  return part

/-- The order is that in which keys were first entered. Entering a known key changes its value and not
its place. -/
abbrev Table := List (String × String)

namespace Table

def get? (t : Table) (key : String) : Option String := t.lookup key

def keys (t : Table) : List String := t.map Prod.fst

def put (key value : String) : Table → Table
  | [] => [(key, value)]
  | (k, v) :: t => if k = key then (k, value) :: t else (k, v) :: put key value t

def remove (key : String) : Table → Table
  | [] => []
  | (k, v) :: t => if k = key then t else (k, v) :: remove key t

end Table
end XmppStream
