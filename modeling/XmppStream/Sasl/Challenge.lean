import XmppStream.Sasl.Fault
import XmppStream.Text.Basic

/-! Challenges of the mechanism DIGEST-MD5: directives `key=value`, separated by commas and blanks.
A value is quoted, with backslashes before any character, or runs to the next comma. -/

namespace XmppStream.Challenge

def isSeparator (c : Char) : Bool := c = ',' || isBlank c

def isKeyChar (c : Char) : Bool := c != '=' && c != ','

def splitQuoted (seen : List Char) : List Char → Option (List Char × List Char)
  | [] => none
  | '"' :: r => some (seen.reverse, r)
  | ['\\'] => none
  | '\\' :: c :: r => splitQuoted (c :: seen) r
  | c :: r => splitQuoted (c :: seen) r

/-- A value, from its first character on, and what follows it. -/
def splitValue (key : String) (cs : List Char) : Except ReplyFault (List Char × List Char) :=
  match cs with
  | '"' :: r =>
    match splitQuoted [] r with
    | some split => .ok split
    | none => .error (.unterminated key)
  | cs =>
    let value := trimChars (cs.takeWhile (· != ','))
    if value = [] then .error (.emptyValue key) else .ok (value, cs.dropWhile (· != ','))

def splitDirective (cs : List Char) : Except ReplyFault ((String × String) × List Char) :=
  let key := trimChars (cs.takeWhile isKeyChar)
  match cs.dropWhile isKeyChar with
  | '=' :: r =>
    if key = [] then .error .emptyKey
    else match splitValue (String.ofList key) (r.dropWhile isBlank) with
      | .error e => .error e
      | .ok (value, rest) => .ok ((String.ofList key, String.ofList value), rest)
  | _ => .error (.noValue (String.ofList key))

theorem splitQuoted_length_le {seen cs value rest : List Char}
    (h : splitQuoted seen cs = some (value, rest)) : rest.length ≤ cs.length := by
  fun_induction splitQuoted seen cs with
  | case1 => cases h
  | case2 => cases h; simp
  | case3 => cases h
  | case4 _ _ _ ih => have := ih h; simp only [List.length_cons]; omega
  | case5 _ _ _ _ _ _ ih => have := ih h; simp only [List.length_cons]; omega

theorem dropWhile_length_le (p : Char → Bool) (cs : List Char) :
    (cs.dropWhile p).length ≤ cs.length := (List.dropWhile_suffix p).length_le

theorem splitValue_length_le {key : String} {cs value rest : List Char}
    (h : splitValue key cs = .ok (value, rest)) : rest.length ≤ cs.length := by
  rw [splitValue.eq_def] at h
  split at h
  · split at h
    · next e =>
      cases h
      have := splitQuoted_length_le e
      simp only [List.length_cons]
      omega
    · cases h
  · dsimp only at h
    split at h <;> cases h
    exact dropWhile_length_le _ _

theorem splitDirective_length_lt {cs rest : List Char} {entry : String × String}
    (h : splitDirective cs = .ok (entry, rest)) : rest.length < cs.length := by
  have outer := dropWhile_length_le isKeyChar cs
  rw [splitDirective] at h
  split at h
  · next r e =>
    rw [e] at outer
    have inner := dropWhile_length_le isBlank r
    simp only [List.length_cons] at outer
    split at h
    · cases h
    · split at h <;> cases h
      next e' =>
        have := splitValue_length_le e'
        omega
  · cases h

/-- Adds the directives of a text; the last value of a key counts. -/
def parseOnto (found : Table) (cs : List Char) : Except ReplyFault Table :=
  match _h : cs.dropWhile isSeparator with
  | [] => .ok found
  | c :: r =>
    match _h' : splitDirective (c :: r) with
    | .error e => .error e
    | .ok ((key, value), rest) => parseOnto (found.put key value) rest
termination_by cs.length
decreasing_by
  have := splitDirective_length_lt _h'
  have skip := dropWhile_length_le isSeparator cs
  rw [_h] at skip
  omega

def parse (s : String) : Except ReplyFault Table := parseOnto [] s.toList

end XmppStream.Challenge
