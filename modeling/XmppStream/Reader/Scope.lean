import XmppStream.Markup.Attribute
import XmppStream.Node.Basic
import XmppStream.Reader.Fault

/-! Start tags: decoding their attributes, and the namespace declarations in force at an element. -/

namespace XmppStream

structure Scope where
  defaultNs : Option String := none
  prefixes : Table := []
deriving DecidableEq, Repr

namespace Scope

/-- The namespace that a name beginning with `label:` is in; innermost scopes come first, and in one
scope the first declaration counts. -/
def resolve? (scopes : List Scope) (label : String) : Option String :=
  if label = "xml" then some Namespace.xml else scopes.findSome? (·.prefixes.get? label)

def defaultOf (scopes : List Scope) : String := (scopes.findSome? (·.defaultNs)).getD ""

end Scope

structure QName where
  label : Option String
  localName : String
deriving DecidableEq, Repr

def QName.ofString (s : String) : QName :=
  match s.toList.dropWhile (· != ':') with
  | [] => ⟨none, s⟩
  | _ :: rest => ⟨some (String.ofList (s.toList.takeWhile (· != ':'))), String.ofList rest⟩

structure StartTag where
  name : String
  scope : Scope
  lang : Option String
  attrs : Table
deriving DecidableEq, Repr

namespace StartTag

def add (t : StartTag) (key value : String) : StartTag :=
  if key = "xmlns" then { t with scope.defaultNs := some value }
  else if "xmlns:".toList.isPrefixOf key.toList then
    let label := String.ofList (key.toList.drop 6)
    { t with scope.prefixes := t.scope.prefixes ++ [(label, value)] }
  else if key = "xml:lang" then { t with lang := some value }
  else { t with attrs := t.attrs ++ [(key, value)] }

end StartTag

def decodeName (bs : Bytes) : Except MarkupFault String :=
  (Utf8.decodeString bs).mapError .encoding

def decodeText (bs : Bytes) : Except MarkupFault String :=
  match Utf8.decode bs with
  | .error e => .error (.content e)
  | .ok cs =>
    match Markup.unescape cs with
    | .error e => .error (.entity e)
    | .ok cs => .ok (String.ofList cs)

namespace StartTag

def addAll (t : StartTag) (fault : Option Markup.AttributeFault) :
    List Markup.RawAttribute → Except MarkupFault StartTag
  | [] =>
    match fault with
    | some e => .error (.attribute e)
    | none => .ok t
  | a :: as =>
    match decodeName a.key, decodeText a.value with
    | .error e, _ => .error e
    | _, .error e => .error e
    | .ok key, .ok value => addAll (t.add key value) fault as

def read (name : String) (content : Bytes) : Except MarkupFault StartTag :=
  let (attributes, fault) := Markup.attributes content
  addAll ⟨name, {}, none, []⟩ fault attributes

/-- The namespace of the element, `scopes` being those in force, its own included. -/
def elementNs (t : StartTag) (scopes : List Scope) : Except MarkupFault String :=
  match (QName.ofString t.name).label with
  | none => .ok (Scope.defaultOf scopes)
  | some label =>
    match Scope.resolve? scopes label with
    | some ns => .ok ns
    | none => .error (.undeclared label t.name)

/-- The declarations that qualified attribute names rely on, in order of first use. -/
def attrPrefixes (element : String) (scopes : List Scope) (found : Table) :
    Table → Except MarkupFault Table
  | [] => .ok found
  | (key, _) :: attrs =>
    match (QName.ofString key).label with
    | none => attrPrefixes element scopes found attrs
    | some label =>
      match Scope.resolve? scopes label with
      | none => .error (.undeclaredAttribute label key element)
      | some ns =>
        let found := if label = "xml" ∨ (found.get? label).isSome then found
          else found ++ [(label, ns)]
        attrPrefixes element scopes found attrs

end StartTag
end XmppStream
