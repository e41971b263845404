import XmppStream.Config.Basic
import XmppStream.Connection.Drain

/-! A session is an authenticated stream with the accounts of stream management. Once these are on,
each stanza sent is entered after it is written, and frames of stream management are dealt with here
instead of being handed out. -/

namespace XmppStream

inductive Fault where
  | connection (why : ConnectionFault)
  | auth (why : AuthFault)
  | management (why : ManagementFault)
  | config (why : ConfigFault)
deriving DecidableEq, Repr

def Fault.message : Fault → String
  | connection why => why.message
  | auth why => why.message
  | management why => why.message
  | config why => "invalid configuration: " ++ why.message

structure Session where
  connection : Connection
  features : Stanza
  policy : AckPolicy
  ledger : Option Ledger := none
  /-- Stanzas that came before stream management was on, the oldest first. They are handed out
  first and not counted. -/
  backlog : List Stanza := []

namespace Session

variable {α : Type}

def setConnection (s : Session) (connection : Connection) : Session := { s with connection }

def connected (act : Act Connection ConnectionFault α) : Act Session Fault α :=
  (act.mapFault .connection).on connection setConnection

def offersManagement (s : Session) : Bool :=
  (s.features.childIn? "sm" Namespace.management).isSome

/-- Enters a stanza that was written; the value tells whether an acknowledgement is to be asked
for. -/
def enter (stanza : Stanza) (s : Session) : Bool × Session :=
  match s.ledger with
  | none => (false, s)
  | some l =>
    if stanza.isManagement then (false, s)
    else (s.policy.due (l.record stanza).sent, { s with ledger := some (l.record stanza) })

def send (stanza : Stanza) : Act Session Fault Unit := do
  connected (Connection.send stanza)
  if ← Act.update (enter stanza) then connected (Connection.send Ledger.requestFrame)

def requestAck : Act Session Fault Unit := do
  if ← Act.look (·.ledger.isNone) then Act.fail (.management .notEnabled)
  connected (Connection.send Ledger.requestFrame)

/-- Reads up to the answer to a request for stream management, and keeps what else comes. -/
def awaitEnabled (s : Session) : Awaited Fault Unit × Session :=
  match _h : s.connection.recv with
  | (.failed why, c) => (.failed (.connection why), s.setConnection c)
  | (.waiting, c) => (.waiting, s.setConnection c)
  | (.ready stanza, c) =>
    match stanza.kind with
    | .smEnabled => (.ready (), { s with connection := c, ledger := some {} })
    | .smFailed =>
      (.failed (.management (.refused (stanza.reason "undefined-condition"))), s.setConnection c)
    | _ => awaitEnabled { s with connection := c, backlog := s.backlog ++ [stanza] }
termination_by s.connection.remaining
decreasing_by exact Connection.remaining_of_recv _h

def enable (resume : Bool) : Act Session Fault Unit := do
  if ← Act.look (·.ledger.isSome) then return
  if ← Act.look (!·.offersManagement) then Act.fail (.management .notOffered)
  connected (Connection.send (Ledger.enableFrame resume))
  awaitEnabled

def enableFrom (options : ManagementOptions) : Act Session Fault Bool := do
  if !options.enabled then return ← Act.look (·.ledger.isSome)
  if ← Act.look (!·.offersManagement) then return false
  enable options.resume
  return true

def manage (frame : Stanza) (l : Ledger) : Act Session Fault Unit := fun s =>
  match l.handle frame with
  | (.error why, l) => (.failed (.management why), { s with ledger := some l })
  | (.ok none, l) => (.ready (), { s with ledger := some l })
  | (.ok (some reply), l) => connected (Connection.send reply) { s with ledger := some l }

theorem remaining_of_manage {frame : Stanza} {l : Ledger} {s s' : Session}
    {result : Awaited Fault Unit} (h : manage frame l s = (result, s')) :
    s'.connection.remaining = s.connection.remaining := by
  rw [manage] at h
  split at h
  · cases h; rfl
  · cases h; rfl
  · obtain ⟨-, rfl⟩ := Prod.mk.inj h
    exact Connection.remaining_send _ _

/-- Reads up to the next stanza to hand out, and deals with the frames of stream management before
it. Without accounts every stanza is handed out. -/
def recvFresh (s : Session) : Awaited Fault Stanza × Session :=
  match _h : s.connection.recv with
  | (.failed why, c) => (.failed (.connection why), s.setConnection c)
  | (.waiting, c) => (.waiting, s.setConnection c)
  | (.ready stanza, c) =>
    match s.ledger with
    | none => (.ready stanza, s.setConnection c)
    | some l =>
      if stanza.isManagement then
        match _h' : manage stanza l (s.setConnection c) with
        | (.failed why, managed) => (.failed why, managed)
        | (.waiting, managed) => (.waiting, managed)
        | (.ready (), managed) => recvFresh managed
      else (.ready stanza, { s with connection := c, ledger := some l.countReceived })
termination_by s.connection.remaining
decreasing_by
  rw [remaining_of_manage _h']
  exact Connection.remaining_of_recv _h

def recv : Act Session Fault Stanza := fun s =>
  match s.backlog with
  | stanza :: backlog => (.ready stanza, { s with backlog })
  | [] => s.recvFresh

def release (s : Session) : Option (UInt32 × Stanza) × Session :=
  match s.ledger with
  | none => (none, s)
  | some l => (l.release.1, { s with ledger := some l.release.2 })

def close : Act Session Fault Unit := connected Connection.sendClose

end Session
end XmppStream
