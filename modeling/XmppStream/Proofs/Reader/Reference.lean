import XmppStream.Reader.Basic

/-! A reference for the reader: recursive descent over the tokens of a stream. The content of an
element is read by one call, which ends at the end tag of that element, and what is in force at an
element is what it and the elements around it say. -/

namespace XmppStream.Reference
open Markup

def splitColon : List Char → Option (List Char × List Char)
  | [] => none
  | c :: cs =>
    if c = ':' then some ([], cs)
    else (splitColon cs).map fun (label, localPart) => (c :: label, localPart)

def label? (name : String) : Option String :=
  (splitColon name.toList).map fun parts => String.ofList parts.1

def localPart (name : String) : String :=
  match splitColon name.toList with
  | none => name
  | some parts => String.ofList parts.2

/-- The attributes of an element and of those around it, the innermost first. -/
abbrev Around := List Table

namespace Around

def nearest (around : Around) (key : String) : Option String := around.findSome? (·.get? key)

def resolve? (around : Around) (label : String) : Option String :=
  if label = "xml" then some Namespace.xml else around.nearest ("xmlns:" ++ label)

def namespaceOf (around : Around) (name : String) : Option String :=
  match label? name with
  | none => some ((around.nearest "xmlns").getD "")
  | some label => around.resolve? label

end Around

def isDeclaration (key : String) : Bool :=
  key = "xmlns" || "xmlns:".toList.isPrefixOf key.toList

/-- The attributes that say something of the element itself, but its language. -/
def plain (attrs : Table) : Table :=
  attrs.filter fun (key, _) => !isDeclaration key && key ≠ "xml:lang"

def uses (attrs : Table) : List String := attrs.filterMap fun (key, _) => label? key

/-- The labels that need a declaration, in order of first use. -/
def labels (attrs : Table) : List String := ((uses attrs).filter (· ≠ "xml")).eraseDups

def decodeAll : List RawAttribute → Option Table
  | [] => some []
  | a :: as =>
    match decodeName a.key, decodeText a.value, decodeAll as with
    | .ok key, .ok value, some attrs => some ((key, value) :: attrs)
    | _, _, _ => none

def attributes? (content : Bytes) : Option Table :=
  match attributes content with
  | (raws, none) => decodeAll raws
  | (_, some _) => none

/-- A start tag: its attributes, and the node that it begins. -/
structure Element where
  attrs : Table
  node : Node
deriving DecidableEq

/-- The element that a start tag begins, `above` being the attributes of the elements around it. -/
def element? (above : Around) (content : Bytes) : Option Element :=
  match decodeName (tagName content), attributes? content with
  | .ok name, some attrs =>
    let around : Around := attrs :: above
    match around.namespaceOf name with
    | none => none
    | some ns =>
      if (labels (plain attrs)).all fun label => (around.resolve? label).isSome then
        some {
          attrs
          node := {
            name := localPart name
            ns
            prefixes := (labels (plain attrs)).filterMap fun label =>
              (around.resolve? label).map fun ns => (label, ns)
            attrs := plain attrs
            lang := attrs.get? "xml:lang" } }
      else none
  | _, _ => none

structure Body where
  text : String := ""
  children : List Node := []

namespace Body

def addText (body : Body) (more : String) : Body := { body with text := body.text ++ more }

def addChild (body : Body) (child : Node) : Body :=
  { body with children := body.children ++ [child] }

def finish (body : Body) (node : Node) : Node :=
  { node with
    text := if body.text.toList.all isAsciiBlank then none else some body.text
    children := body.children }

end Body

/-- What reading the content of an element comes to: its end tag and what follows it, the end of the
tokens, or a fault. -/
inductive Answer (ts : List Token) where
  | closed (body : Body) (rest : List Token) (shorter : rest.length < ts.length)
  | unfinished
  | failed

def Answer.widen {ts us : List Token} (h : ts.length ≤ us.length) : Answer ts → Answer us
  | .closed body rest shorter => .closed body rest (Nat.lt_of_lt_of_le shorter h)
  | .unfinished => .unfinished
  | .failed => .failed

/-- Reads the rest of the content of the element `name`, `body` being what was read of it. -/
def content (around : Around) (name : Bytes) (body : Body) : (ts : List Token) → Answer ts
  | [] => .unfinished
  | .opening tag :: ts =>
    match element? around tag with
    | none => .failed
    | some e =>
      match content (e.attrs :: around) (tagName tag) {} ts with
      | .closed inner rest shorter =>
        (content around name (body.addChild (inner.finish e.node)) rest).widen
          (Nat.le_succ_of_le (Nat.le_of_lt shorter))
      | .unfinished => .unfinished
      | .failed => .failed
  | .empty tag :: ts =>
    match element? around tag with
    | none => .failed
    | some e =>
      (content around name (body.addChild ((Body.finish {}) e.node)) ts).widen (Nat.le_succ _)
  | .closing closed :: ts =>
    if closed = name then .closed body ts (Nat.lt_succ_self _) else .failed
  | .text raw :: ts =>
    match decodeText raw with
    | .error _ => .failed
    | .ok text => (content around name (body.addText text) ts).widen (Nat.le_succ _)
  | .cdata raw :: ts =>
    match decodeName raw with
    | .error _ => .failed
    | .ok text => (content around name (body.addText text) ts).widen (Nat.le_succ _)
  | .ignored :: ts => (content around name body ts).widen (Nat.le_succ _)
termination_by ts => ts.length
decreasing_by all_goals simp_wf; try omega

inductive Place where
  | outside
  | wrapped (attrs : Table) (name : Bytes)
  | framing (closes : Bool) (name : Bytes)
  | closed
deriving DecidableEq

def header (attrs : Table) : Header where
  receiver := attrs.get? "to"
  sender := attrs.get? "from"
  id := attrs.get? "id"
  version := attrs.get? "version"
  lang := attrs.get? "xml:lang"
  defaultNs := attrs.get? "xmlns"

inductive Entry where
  | stanza (around : Around) (node : Node)
  | frame (inside : Place) (events : List Event)

namespace Place

/-- What an element that begins at the top level is there for, if the framing allows it. -/
def enter? (framing : Framing) (place : Place) (tag : Bytes) : Option Entry :=
  match place with
  | .outside =>
    match element? [] tag with
    | none => none
    | some ⟨attrs, node⟩ =>
      match framing with
      | .standalone => some (.stanza [attrs] node)
      | .stream =>
        if node.name = "stream" ∧ node.ns = Namespace.stream then
          some (.frame (.wrapped attrs (tagName tag)) [.opened (header attrs)])
        else none
      | .webSocket =>
        if node.ns ≠ Namespace.framing then some (.stanza [attrs] node)
        else if node.name = "open" then
          some (.frame (.framing false (tagName tag))
            [.opened { header attrs with defaultNs := none }])
        else if node.name = "close" then some (.frame (.framing true (tagName tag)) [])
        else none
  | .wrapped above _ =>
    (element? [above] tag).map fun e => .stanza [e.attrs, above] e.node
  | .framing _ _ | .closed => none

def leave? (place : Place) (name : Bytes) : Option (Place × List Event) :=
  match place with
  | .wrapped _ opened => if name = opened then some (.closed, [.closed]) else none
  | .framing closes opened =>
    if name = opened then some (if closes then (.closed, [.closed]) else (.outside, [])) else none
  | .outside | .closed => none

/-- Text outside of stanzas is dropped, but after the close it must be blank. -/
def allows (place : Place) (text : String) : Bool := place ≠ .closed || isBlankText text

end Place

structure Outcome where
  events : List Event
  ok : Bool
deriving DecidableEq

namespace Outcome

def finished : Outcome := ⟨[], true⟩

def failed : Outcome := ⟨[], false⟩

def after (events : List Event) (o : Outcome) : Outcome := ⟨events ++ o.events, o.ok⟩

end Outcome

/-- Reads a stream from a place at its top level. -/
def stream (framing : Framing) (place : Place) : List Token → Outcome
  | [] => .finished
  | .opening tag :: ts =>
    match place.enter? framing tag with
    | none => .failed
    | some (.frame inside events) => (stream framing inside ts).after events
    | some (.stanza around node) =>
      match content around (tagName tag) {} ts with
      | .closed body rest _ => (stream framing place rest).after [.stanza (body.finish node)]
      | .unfinished => .finished
      | .failed => .failed
  | .empty tag :: ts =>
    match place.enter? framing tag with
    | none => .failed
    | some (.frame inside events) =>
      match inside.leave? (tagName tag) with
      | none => .failed
      | some (place, more) => (stream framing place ts).after (events ++ more)
    | some (.stanza _ node) => (stream framing place ts).after [.stanza ((Body.finish {}) node)]
  | .closing name :: ts =>
    match place.leave? name with
    | none => .failed
    | some (place, events) => (stream framing place ts).after events
  | .text raw :: ts =>
    match decodeText raw with
    | .error _ => .failed
    | .ok text => if place.allows text then stream framing place ts else .failed
  | .cdata raw :: ts =>
    match decodeName raw with
    | .error _ => .failed
    | .ok text => if place.allows text then stream framing place ts else .failed
  | .ignored :: ts => stream framing place ts
termination_by ts => ts.length
decreasing_by all_goals simp_wf; try omega

end XmppStream.Reference
