import XmppStream.Sasl.Authenticate
import XmppStream.Session.Basic

/-! From a transport to a session: the stream is opened, the client authenticates, and the stream is
opened once more. -/

namespace XmppStream

namespace Connection

def openStream (header : Header) : Act Connection ConnectionFault Stanza := do
  sendOpen header
  if (← Act.look (·.reader.framing)) ≠ .standalone then discard recvOpen
  expectFeatures (← recv)

end Connection

namespace Config

def connection (c : Config) (wire : Wire) : Connection :=
  { wire, reader := { framing := c.framing, limit := c.maxStanzaSize } }

end Config

variable {τ : Type}

def signIn (config : Config) (shutdown : Nat → Bool) (e : Exchange) (source : CredentialSource τ)
    (t : τ) : Act Connection Fault Stanza := do
  let features ← (Connection.openStream config.header).mapFault .connection
  (authenticate Connection.channel shutdown e (Exchange.offeredBy features) source t).mapFault .auth
  Act.update fun c => ((), c.reset)
  (Connection.openStream config.header).mapFault .connection

/-- The session of a client that has signed in. The nonce is the client's part of its proofs. -/
def login (config : Config) (encrypted : Bool) (clientNonce : String) (shutdown : Nat → Bool)
    (source : CredentialSource τ) (t : τ) : Act Connection Fault Session := do
  let e : Exchange := { options := config.authOptions encrypted, clientNonce }
  let features ← signIn config shutdown e source t
  Act.look fun connection => { connection, features, policy := config.management.ackPolicy }

end XmppStream
