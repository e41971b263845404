import XmppStream.Config.Logging
import XmppStream.Management.Ledger
import XmppStream.Reader.Basic
import XmppStream.Sasl.Exchange

/-! The configuration of a client: the domain to talk to, and for all else a default. -/

namespace XmppStream

structure ManagementOptions where
  enabled : Bool := true
  resume : Bool := false
  requestEvery : Option UInt32 := ({} : AckPolicy).requestEvery
deriving DecidableEq, Repr

def ManagementOptions.ackPolicy (o : ManagementOptions) : AckPolicy :=
  { requestEvery := o.requestEvery }

structure Config where
  domain : String := ""
  allowPlain : Bool := false
  framing : Framing := .stream
  maxStanzaSize : Nat := Reader.defaultLimit
  management : ManagementOptions := {}
  startTlsTimeout : Nat := 10
  insecureTls : Bool := false
  logging : Logging := {}
deriving DecidableEq, Repr

namespace Config

def fault? (c : Config) : Option ConfigFault :=
  if trim c.domain = "" then some .emptyDomain
  else if c.maxStanzaSize = 0 then some .zeroStanzaSize
  else if c.startTlsTimeout = 0 then some .zeroTimeout
  else if c.management.requestEvery = some 0 then some .zeroRequestEvery
  else none

def authOptions (c : Config) (encrypted : Bool) : AuthOptions :=
  { server := c.domain, allowPlain := c.allowPlain, encrypted }

def header (c : Config) : Header := .client c.domain

end Config
end XmppStream
