import XmppStream.Config.Basic
import XmppStream.Connection.Basic
import XmppStream.StartTls.ServerName

/-! From a stream in the clear to one over TLS: the client asks for TLS where the features offer it,
and the handshake begins once the server says to proceed. -/

namespace XmppStream

structure TlsClient where
  hasRoots : Bool
  /-- The handshake with the server of a domain. If `insecure`, any certificate will do. -/
  handshake : (domain : String) → (insecure : Bool) → Act Wire HandshakeClass Unit

namespace StartTls

def offer? (features : Stanza) : Option Node := features.childIn? "starttls" Namespace.tls

def offered (features : Stanza) : Bool := (offer? features).isSome

def required (features : Stanza) : Bool :=
  ((offer? features).bind (·.child? "required")).isSome

def requestFrame : Stanza := { name := "starttls", ns := Namespace.tls }

/-- Asks for TLS on an open stream with these features, and waits until the server is ready. -/
def negotiate (features : Stanza) : Act Connection ConnectionFault Unit := do
  if !offered features then Act.fail (.tls (.notOffered features))
  Connection.send requestFrame
  let reply ← Connection.recv.within (.timeout .proceed)
  match reply.kind with
  | .proceed => return
  | .tlsFailure => Act.fail (.tls .rejected)
  | _ => Act.fail (.unexpected (.proceed reply))

/-- A connection over the same transport that nothing was read on yet. -/
def renew (c : Connection) : Connection :=
  { wire := c.wire, reader := { framing := c.reader.framing, limit := c.reader.limit } }

def upgrade (tls : TlsClient) (domain : String) (insecure : Bool) :
    Act Connection ConnectionFault Unit := do
  if !insecure && !tls.hasRoots then Act.fail (.tls .noRoots)
  if !ServerName.valid domain then Act.fail (.tls .invalidName)
  ((tls.handshake domain insecure).mapFault fun trouble =>
    .tls (.handshake domain trouble)).on (·.wire) fun c wire => { c with wire }
  Act.update fun c => ((), renew c)

def ask (config : Config) : Act Connection ConnectionFault Unit := do
  Connection.sendOpen config.header
  discard (Connection.recvOpen.within (.timeout .header))
  let features ← Connection.recv.within (.timeout .features)
  negotiate (← Connection.expectFeatures features)

def perform (tls : TlsClient) (config : Config) : Act Connection ConnectionFault Unit := do
  ask config
  upgrade tls config.domain config.insecureTls

end StartTls
end XmppStream
