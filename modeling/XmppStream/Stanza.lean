import XmppStream.Node.Basic

/-! Stanzas: the complete elements directly inside a stream, told apart by name and namespace, and
the replies that an info query asks for. -/

namespace XmppStream

/-- A stanza is its outermost node. -/
abbrev Stanza := Node

inductive StanzaKind where
  | message | presence | iq
  | streamFeatures | streamError
  | auth | challenge | response | success | failure
  | startTls | proceed | tlsFailure
  | smRequest | smAck | smEnable | smEnabled | smFailed
  | unknown
deriving DecidableEq, Repr

inductive StanzaType where
  | absent
  | normal | chat | groupChat | headline
  | unavailable | probe | subscribe | subscribed | unsubscribe | unsubscribed
  | get | set | result | error
  | unknown
deriving DecidableEq, Repr

namespace Stanza

def kindsOf (ns : String) : List (String × StanzaKind) :=
  if ns = Namespace.client ∨ ns = "" then
    [("message", .message), ("presence", .presence), ("iq", .iq)]
  else if ns = Namespace.stream then [("features", .streamFeatures), ("error", .streamError)]
  else if ns = Namespace.sasl then
    [("auth", .auth), ("challenge", .challenge), ("response", .response), ("success", .success),
      ("failure", .failure)]
  else if ns = Namespace.tls then
    [("starttls", .startTls), ("proceed", .proceed), ("failure", .tlsFailure)]
  else if ns = Namespace.management then
    [("r", .smRequest), ("a", .smAck), ("enable", .smEnable), ("enabled", .smEnabled),
      ("failed", .smFailed)]
  else []

def kind (s : Stanza) : StanzaKind := ((kindsOf s.ns).lookup s.name).getD .unknown

def types : List (String × StanzaType) :=
  [("normal", .normal), ("chat", .chat), ("groupchat", .groupChat), ("headline", .headline),
    ("unavailable", .unavailable), ("probe", .probe), ("subscribe", .subscribe),
    ("subscribed", .subscribed), ("unsubscribe", .unsubscribe), ("unsubscribed", .unsubscribed),
    ("get", .get), ("set", .set), ("result", .result), ("error", .error)]

def type (s : Stanza) : StanzaType :=
  match s.attr "type" with
  | none => .absent
  | some t => (types.lookup t).getD .unknown

def reason (refusal : Stanza) (unknown : String) : String :=
  (refusal.children.head?.map (·.name)).getD unknown

/-- A frame of stream management, which is never counted. -/
def isManagement (s : Stanza) : Bool := s.ns = Namespace.management

def isQuery (s : Stanza) : Bool := s.kind = .iq && (s.type = .get || s.type = .set)

def reply? (request : Stanza) (type : String) : Option Stanza :=
  if request.isQuery then
    let entry (key : String) (value : Option String) : Table := value.toList.map (key, ·)
    some {
      name := "iq"
      ns := request.ns
      attrs := ("type", type) :: entry "id" (request.attr "id")
        ++ entry "to" (request.attr "from") ++ entry "from" (request.attr "to") }
  else none

def iqResult? (request : Stanza) : Option Stanza := reply? request "result"

def iqError? (request : Stanza) (type condition : String) : Option Stanza :=
  (reply? request "error").map fun reply =>
    reply.addChild {
      name := "error"
      ns := reply.ns
      attrs := [("type", type)]
      children := [{ name := condition, ns := Namespace.stanzas }] }

end Stanza
end XmppStream
