import XmppStream.Header
import XmppStream.Reader.Scope
import XmppStream.Stanza

/-! The incremental reader of a stream. Bytes arrive in pieces; each push cuts the tokens that are
complete, applies them to the open elements and delivers the framing events that follow from them.
What is left of an incomplete token is kept for the next push. -/

namespace XmppStream

inductive Framing where
  /-- Everything lies inside `<stream:stream>`. -/
  | stream
  /-- Every top-level element is a stanza. -/
  | standalone
  /-- The top-level elements `<open/>` and `<close/>` delimit the stream. -/
  | webSocket
deriving DecidableEq, Repr

inductive Event where
  | opened (header : Header)
  | stanza (stanza : Stanza)
  | closed
deriving DecidableEq, Repr

/-- A node under construction: its start tag in `node`, and the text pieces and children read so
far, the latest first. -/
structure OpenNode where
  node : Node
  text : List String := []
  children : List Node := []
deriving DecidableEq, Repr

namespace OpenNode

def close (n : OpenNode) : Node :=
  { n.node with
    text := if n.text = [] then none else substance (some (String.join n.text.reverse))
    children := n.children.reverse }

end OpenNode

structure Reader where
  framing : Framing
  /-- The largest stanza, and the largest rest to keep, in bytes. -/
  limit : Nat
  kept : Bytes := []
  depth : Nat := 0
  names : List String := []
  scopes : List Scope := []
  nodes : List OpenNode := []
  /-- The bytes read of that stanza so far. -/
  charged : Nat := 0
  inFraming : Bool := false
  finished : Bool := false
  fault : Option ReaderFault := none
deriving DecidableEq, Repr

namespace Reader

def defaultLimit : Nat := 1024 * 1024

def reset (r : Reader) : Reader := { framing := r.framing, limit := r.limit }

def enter (r : Reader) (name : String) (scopes : List Scope) : Reader :=
  { r with depth := r.depth + 1, names := name :: r.names, scopes }

def enterNode (r : Reader) (t : StartTag) (ns : String) (prefixes : Table) : Reader :=
  let node := {
    name := (QName.ofString t.name).localName
    ns
    prefixes
    attrs := t.attrs.foldl (fun attrs (key, value) => attrs.put key value) []
    lang := t.lang }
  { r.enter t.name (t.scope :: r.scopes) with nodes := { node } :: r.nodes }

/-- A start tag outside of all elements, where the framing says what may stand. -/
def enterTop (r : Reader) (t : StartTag) (ns : String) (prefixes : Table) :
    Except ReaderFault (Reader × List Event) :=
  let localName := (QName.ofString t.name).localName
  match r.framing with
  | .standalone => .ok (r.enterNode t ns prefixes, [])
  | .stream =>
    if localName = "stream" ∧ ns = Namespace.stream then
      .ok (r.enter t.name (t.scope :: r.scopes),
        [.opened (Header.ofAttrs t.lang t.scope.defaultNs t.attrs)])
    else .error (.framing (.notStream t.name ns))
  | .webSocket =>
    if ns = Namespace.framing then
      let inside := { r.enter t.name (t.scope :: r.scopes) with inFraming := true }
      if localName = "open" then .ok (inside, [.opened (Header.ofAttrs t.lang none t.attrs)])
      else if localName = "close" then .ok (inside, [])
      else .error (.framing (.unknownFraming t.name))
    else .ok (r.enterNode t ns prefixes, [])

def startTag (r : Reader) (t : StartTag) : Except ReaderFault (Reader × List Event) :=
  let scopes := t.scope :: r.scopes
  match t.elementNs scopes with
  | .error e => .error (.markup e)
  | .ok ns =>
    match StartTag.attrPrefixes t.name scopes [] t.attrs with
    | .error e => .error (.markup e)
    | .ok prefixes =>
      if r.depth = 0 then r.enterTop t ns prefixes else .ok (r.enterNode t ns prefixes, [])

/-- The content of a start tag: its name may stand only inside an open stream, and outside of the
elements that frame it. -/
def opening (r : Reader) (content : Bytes) : Except ReaderFault (Reader × List Event) :=
  match decodeName (Markup.tagName content) with
  | .error e => .error (.markup e)
  | .ok name =>
    if r.finished then .error (.framing (.afterClose name))
    else if r.inFraming then .error (.framing (.insideFraming name))
    else match StartTag.read name content with
      | .error e => .error (.markup e)
      | .ok t => r.startTag t

def lastPart (name : String) : String :=
  String.ofList (name.toList.reverse.takeWhile (· != ':')).reverse

def leave (r : Reader) (name : String) : Except ReaderFault (Reader × List Event) :=
  if r.inFraming then
    let r := { r with inFraming := false }
    if lastPart name = "close" then .ok ({ r with finished := true }, [.closed]) else .ok (r, [])
  else if r.framing = .stream ∧ r.depth = 0 then .ok ({ r with finished := true }, [.closed])
  else match r.nodes with
    | [] => .error (.framing (.outsideStanza name))
    | [n] => .ok ({ r with nodes := [] }, [.stanza n.close])
    | n :: parent :: nodes =>
      .ok ({ r with nodes := { parent with children := n.close :: parent.children } :: nodes }, [])

def endTag (r : Reader) (name : String) : Except ReaderFault (Reader × List Event) :=
  match r.names with
  | [] => .error (.markup (.unopened name))
  | expected :: names =>
    if expected = name then
      leave { r with names, scopes := r.scopes.tail, depth := r.depth - 1 } name
    else .error (.markup (.mismatched name expected))

def closing (r : Reader) (name : Bytes) : Except ReaderFault (Reader × List Event) :=
  match decodeName name with
  | .error e => .error (.markup e)
  | .ok name => r.endTag name

def emptyTag (r : Reader) (content : Bytes) : Except ReaderFault (Reader × List Event) :=
  match r.opening content with
  | .error e => .error e
  | .ok (r, first) =>
    match r.closing (Markup.tagName content) with
    | .error e => .error e
    | .ok (r, second) => .ok (r, first ++ second)

/-- Character data belongs to the innermost node. Outside of stanzas it is dropped, but after the
close only blanks may stand. -/
def characters (r : Reader) (text : String) : Except ReaderFault (Reader × List Event) :=
  match r.nodes with
  | n :: nodes => .ok ({ r with nodes := { n with text := text :: n.text } :: nodes }, [])
  | [] =>
    if r.finished ∧ !isBlankText text then .error (.framing .textAfterClose) else .ok (r, [])

def apply (r : Reader) : Markup.Token → Except ReaderFault (Reader × List Event)
  | .opening content => r.opening content
  | .empty content => r.emptyTag content
  | .closing name => r.closing name
  | .text raw =>
    match decodeText raw with
    | .error e => .error (.markup e)
    | .ok text => r.characters text
  | .cdata raw =>
    match decodeName raw with
    | .error e => .error (.markup e)
    | .ok text => r.characters text
  | .ignored => .ok (r, [])

/-- Charges a token to the stanza being read; the count starts anew when none is. -/
def charge (r : Reader) (size : Nat) : Reader :=
  if r.nodes = [] then { r with charged := 0 }
  else
    let charged := r.charged + size
    if r.limit < charged then { r with charged, fault := some (.overflow charged r.limit) }
    else { r with charged }

/-- A reader in the middle of a push: the events delivered so far, the latest first, and the number
of bytes taken. -/
structure Progress where
  reader : Reader
  events : List Event := []
  consumed : Nat := 0
deriving DecidableEq, Repr

namespace Progress

def take (p : Progress) (x : Markup.Lexeme) : Progress :=
  if p.reader.fault.isSome then p
  else match p.reader.apply x.token with
    | .error e => { p with reader := { p.reader with fault := some e } }
    | .ok (r, events) =>
      { reader := r.charge x.size
        events := events.reverse ++ p.events
        consumed := p.consumed + x.size }

end Progress

def byteOrderMark : Bytes := [0xEF, 0xBB, 0xBF]

/-- The tokens of a buffer and why there are no more. A byte order mark in front is skipped, and
then a text that reaches the end of the buffer counts as complete. -/
def tokens (buffer : Bytes) : List Markup.Lexeme × Markup.Ending :=
  if byteOrderMark.isPrefixOf buffer then
    match Markup.lex (buffer.drop 3) with
    | (lexemes, .text raw) =>
      (if raw = [] then lexemes else lexemes ++ [⟨.text raw, raw.length⟩], .text [])
    | other => other
  else Markup.lex buffer

/-- The fault that ends a push which took all its tokens and keeps `kept`. An unknown declaration
may still be the beginning of a known one while fewer than nine bytes of it are there. -/
def endingFault (limit : Nat) (kept : Bytes) (ending : Markup.Ending) : Option ReaderFault :=
  if ending = .unnamedDoctype then some (.markup .unnamedDoctype)
  else if ending = .unknownDeclaration ∧ 9 ≤ kept.length then some (.markup .unknownDeclaration)
  else if limit < kept.length then some (.overflow kept.length limit)
  else none

/-- Takes the next piece of the stream. The fault of the new reader, if any, is that of the push; a
reader with a fault takes nothing more until it is reset. -/
def push (r : Reader) (data : Bytes) : Reader × List Event :=
  if r.fault.isSome then (r, [])
  else
    let buffer := r.kept ++ data
    let (lexemes, ending) := tokens buffer
    let p := lexemes.foldl Progress.take { reader := { r with kept := [] } }
    let kept := buffer.drop p.consumed
    let fault := p.reader.fault.or (endingFault r.limit kept ending)
    ({ p.reader with kept := if fault.isSome then [] else kept, fault }, p.events.reverse)

end Reader
end XmppStream
