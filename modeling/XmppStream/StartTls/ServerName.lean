import XmppStream.Text.Basic
import XmppStream.Text.Numeral

/-! The names under which a TLS server can be asked for: names of the domain name system, and
addresses of both versions of the internet protocol. -/

namespace XmppStream.ServerName

def isLabelChar (c : Char) : Bool := c.isAlphanum || c = '-' || c = '_'

def isLabel (cs : List Char) : Bool :=
  cs ≠ [] && cs.length ≤ 63 && cs.all isLabelChar && cs.head? ≠ some '-' && cs.getLast? ≠ some '-'

/-- The labels, the last first; a dot at the end of a name adds none. -/
def labels (cs : List Char) : List (List Char) :=
  match (partsAt '.' cs).reverse with
  | [] :: r => r
  | r => r

/-- A name whose last label is a number would look like an address. -/
def isDomain (cs : List Char) : Bool :=
  match labels cs with
  | [] => false
  | last :: r => cs.length ≤ 253 && (last :: r).all isLabel && !last.all Char.isDigit

def isOctet (cs : List Char) : Bool :=
  (cs.length = 1 || cs.head? ≠ some '0') && (Numeral.read 10 256 cs).toOption.isSome

def isAddress4 (cs : List Char) : Bool :=
  (partsAt '.' cs).length = 4 && (partsAt '.' cs).all isOctet

def isGroup (cs : List Char) : Bool :=
  1 ≤ cs.length && cs.length ≤ 4 && cs.all fun c => (Numeral.digit? 16 c).isSome

def groups? (embedding : Bool) (cs : List Char) : Option Nat :=
  if cs = [] then some 0
  else if (partsAt ':' cs).all isGroup then some (partsAt ':' cs).length
  else if embedding && (partsAt ':' cs).dropLast.all isGroup
      && (partsAt ':' cs).getLast?.any isAddress4 then
    some ((partsAt ':' cs).length + 1)
  else none

def splitDouble : List Char → Option (List Char × List Char)
  | ':' :: ':' :: r => some ([], r)
  | [] => none
  | c :: r => (splitDouble r).map fun (head, tail) => (c :: head, tail)

/-- Eight groups, where a double colon stands for one group of zeros or more. -/
def isAddress6 (cs : List Char) : Bool :=
  match splitDouble cs with
  | none => groups? true cs = some 8
  | some (head, tail) =>
    match groups? false head, groups? true tail with
    | some m, some n => m + n ≤ 7
    | _, _ => false

def valid (name : String) : Bool :=
  isDomain name.toList || isAddress4 name.toList || isAddress6 name.toList

end XmppStream.ServerName
