import XmppStream.Text.Numeral

/-! Entity references. Writing escapes the five characters that markup gives a meaning; reading
resolves the five names and numeric references, and tells where a reference is at fault. -/

namespace XmppStream.Markup

def escapeChar : Char → List Char
  | '&' => ['&', 'a', 'm', 'p', ';']
  | '<' => ['&', 'l', 't', ';']
  | '>' => ['&', 'g', 't', ';']
  | '\'' => ['&', 'a', 'p', 'o', 's', ';']
  | '"' => ['&', 'q', 'u', 'o', 't', ';']
  | c => [c]

def escapeChars (cs : List Char) : List Char := cs.flatMap escapeChar

def escape (s : String) : String := String.ofList (escapeChars s.toList)

inductive ReferenceFault where
  | sign
  | numeral (why : Numeral.Fault)
  | zero
  | notACharacter (code : Nat)
deriving DecidableEq, Repr

def ReferenceFault.message : ReferenceFault → String
  | .sign => "unexpected number sign"
  | .numeral why => why.message
  | .zero => "0x0 character is not permitted in XML"
  | .notACharacter code => s!"`{code}` is not a valid codepoint"

inductive EntityFault where
  | unknown (start stop : Nat) (name : String)
  | unterminated (start stop : Nat)
  | reference (why : ReferenceFault)
deriving DecidableEq, Repr

def EntityFault.message : EntityFault → String
  | .unknown start stop name => s!"at {start}..{stop}: unrecognized entity `{name}`"
  | .unterminated start stop =>
    s!"Error while escaping character at range {start}..{stop}: Cannot find ';' after '&'"
  | .reference why => "invalid character reference: " ++ why.message

def utf8Length (cs : List Char) : Nat := cs.foldl (· + ·.utf8Size) 0

def characterOf (code : Nat) : Except ReferenceFault Char :=
  if code = 0 then .error .zero
  else if code.isValidChar then .ok (Char.ofNat code)
  else .error (.notACharacter code)

def digits (radix : Nat) (cs : List Char) : Except ReferenceFault Char :=
  if cs.head? = some '+' ∨ cs.head? = some '-' then .error .sign
  else match Numeral.read radix UInt32.size cs with
    | .error why => .error (.numeral why)
    | .ok code => characterOf code

def reference : List Char → Except ReferenceFault Char
  | 'x' :: cs => digits 16 cs
  | cs => digits 10 cs

def resolve (start : Nat) (name : List Char) : Except EntityFault Char :=
  match name with
  | ['l', 't'] => .ok '<'
  | ['g', 't'] => .ok '>'
  | ['a', 'm', 'p'] => .ok '&'
  | ['a', 'p', 'o', 's'] => .ok '\''
  | ['q', 'u', 'o', 't'] => .ok '"'
  | '#' :: cs => (reference cs).mapError .reference
  | _ => .error (.unknown start (start + utf8Length name) (String.ofList name))

def isNameChar (c : Char) : Bool := c != '&' && c != ';'

/-- Resolves the entities of a text of which `start` bytes have been read as `seen`, the latest
character first. A name is ended by the next `;`, and no `&` may stand before it. -/
def unescapeFrom (start : Nat) (seen : List Char) : List Char → Except EntityFault (List Char)
  | [] => .ok seen.reverse
  | c :: r =>
    if c = '&' then
      match _h : r.dropWhile isNameChar with
      | ';' :: rest =>
        let name := r.takeWhile isNameChar
        match resolve (start + 1) name with
        | .ok x => unescapeFrom (start + utf8Length name + 2) (x :: seen) rest
        | .error e => .error e
      | _ => .error (.unterminated start (start + utf8Length (c :: r)))
    else unescapeFrom (start + c.utf8Size) (c :: seen) r
termination_by cs => cs.length
decreasing_by
  · have := (List.dropWhile_suffix isNameChar (l := r)).length_le
    rw [_h] at this
    simp only [List.length_cons] at this ⊢
    omega
  · simp

def unescape (cs : List Char) : Except EntityFault (List Char) := unescapeFrom 0 [] cs

end XmppStream.Markup
