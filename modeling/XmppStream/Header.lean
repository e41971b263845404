import XmppStream.Node.Printer

/-! The opening and closing of a stream, in both framings: a TCP stream lies inside
`<stream:stream>`, a WebSocket stream between the elements `<open/>` and `<close/>`. -/

namespace XmppStream

structure Header where
  receiver : Option String := none
  sender : Option String := none
  id : Option String := none
  version : Option String := none
  lang : Option String := none
  defaultNs : Option String := none
deriving DecidableEq, Repr, Inhabited

namespace Header

def client (domain : String) : Header :=
  { receiver := some domain, version := some "1.0", defaultNs := some Namespace.client }

def writeField (key : String) (value : Option String) : String :=
  match value with
  | none => ""
  | some value => if value = "" then "" else writeAttr key value

def writeFields (h : Header) : String :=
  writeField "to" h.receiver ++ writeField "from" h.sender ++ writeField "id" h.id
    ++ writeField "version" h.version ++ writeField "xml:lang" h.lang

def toStreamOpen (h : Header) : String :=
  "<?xml version='1.0'?><stream:stream" ++ h.writeFields
    ++ writeAttr "xmlns" (h.defaultNs.getD Namespace.client)
    ++ " xmlns:stream='" ++ Namespace.stream ++ "'>"

def toWebSocketOpen (h : Header) : String :=
  "<open xmlns='" ++ Namespace.framing ++ "'" ++ h.writeFields ++ "/>"

def streamClose : String := "</stream:stream>"

def webSocketClose : String := "<close xmlns=\"" ++ Namespace.framing ++ "\"/>"

def ofAttrs (lang defaultNs : Option String) (attrs : Table) : Header :=
  attrs.foldl (fun h (key, value) =>
    if key = "to" then { h with receiver := some value }
    else if key = "from" then { h with sender := some value }
    else if key = "id" then { h with id := some value }
    else if key = "version" then { h with version := some value }
    else h) { lang, defaultNs }

end Header
end XmppStream
