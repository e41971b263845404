import XmppStream.Text.Alphanumeric
import XmppStream.Text.Pattern.Mode

/-! Opening parentheses in regular expressions, with the names and flags after them. -/

namespace XmppStream.Pattern

inductive Opening where
  | group (name : Option (List Char)) (flags : List Char)
  | flags (flags : List Char)
deriving DecidableEq, Repr

def isNameChar (c : Char) : Bool := c = '_' || c = '.' || c = '[' || c = ']' || isAlphanumeric c

def name? (cs : List Char) : Option (Opening × List Char) :=
  match cs.takeWhile (· ≠ '>'), cs.dropWhile (· ≠ '>') with
  | first :: more, _ :: r =>
    if (first = '_' || isAlphabetic first) && more.all isNameChar then
      some (.group (some (first :: more)) [], r)
    else none
  | _, _ => none

def flagLetters : List Char := "imsUuRx-".toList

def isFlagsEnd (c : Char) : Bool := c = ':' || c = ')'

/-- Reads flags, each given at most once, up to a colon, where a group begins, or a closing
parenthesis. -/
def flags? (cs : List Char) : Option (Opening × List Char) :=
  let flags := cs.takeWhile (!isFlagsEnd ·)
  match cs.dropWhile (!isFlagsEnd ·) with
  | [] => none
  | mark :: r =>
    if !flags.all (· ∈ flagLetters) || !flags.Nodup || flags.getLast? = some '-' then none
    else if mark = ':' then some (.group none flags, r)
    else if flags = [] then none
    else some (.flags flags, r)

def opening? : List Char → Option (Opening × List Char)
  | '?' :: 'P' :: '<' :: r => name? r
  | '?' :: '<' :: r => name? r
  | '?' :: r => flags? r
  | r => some (.group none [], r)

theorem length_name_le {cs rest : List Char} {o : Opening} (h : name? cs = some (o, rest)) :
    rest.length ≤ cs.length := by
  rw [name?] at h
  split at h
  · next first more c r _ hdrop =>
    have := (List.dropWhile_suffix (p := (· ≠ '>')) (l := cs)).length_le
    rw [hdrop, List.length_cons] at this
    split at h
    · cases h
      omega
    · cases h
  · cases h

theorem length_flags_le {cs rest : List Char} {o : Opening} (h : flags? cs = some (o, rest)) :
    rest.length ≤ cs.length := by
  rw [flags?] at h
  split at h
  · cases h
  · next mark r hdrop =>
    have := (List.dropWhile_suffix (p := (!isFlagsEnd ·)) (l := cs)).length_le
    rw [hdrop, List.length_cons] at this
    repeat' split at h
    all_goals cases h
    all_goals omega

theorem length_opening_le {cs rest : List Char} {o : Opening} (h : opening? cs = some (o, rest)) :
    rest.length ≤ cs.length := by
  rw [opening?.eq_def] at h
  split at h
  · have := length_name_le h
    simp only [List.length_cons]
    omega
  · have := length_name_le h
    simp only [List.length_cons]
    omega
  · have := length_flags_le h
    rw [List.length_cons]
    omega
  · cases h
    exact Nat.le_refl _

end XmppStream.Pattern
