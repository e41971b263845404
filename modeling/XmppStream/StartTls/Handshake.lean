import XmppStream.Connection.Act
import XmppStream.Connection.Fault
import XmppStream.Connection.Wire
import XmppStream.StartTls.Phase
import XmppStream.StartTls.Record
import XmppStream.StartTls.ServerName

/-! A TLS handshake, seen from the client: its hello is written, and the records of the server are
read. Messages may be in parts of several records. The handshake ends by a fault at the latest where
the server's signature is checked, or where records must be enciphered. It stands for
that of a TLS client library, and is one that `TlsClient.handshake` can be. -/

namespace XmppStream

def mentions (word : List Char) : List Char → Bool
  | [] => word = []
  | c :: r => word.isPrefixOf (c :: r) || mentions word r

def HandshakeClass.ofText (detail : String) : HandshakeClass :=
  let tells (word : String) : Bool := mentions word.toList detail.toList
  if tells "ertificate" then .certificate
  else if tells "timed out" || tells "timeout" then .timeout
  else if tells "refused" || tells "reset" then .refused
  else .other

namespace Handshake

def certificateAlerts : List UInt8 := [41, 42, 43, 44, 45, 46, 111, 113, 114, 116]

def alertClass (alert : UInt8) : HandshakeClass :=
  if certificateAlerts.contains alert then .certificate else .other

def canceled : UInt8 := 90

def waitingBound : Nat := 65535

end Handshake

structure Handshake where
  domain : Bool
  phase : Handshake.Phase := .hello
  warnings : Nat := 4
  changes : Nat := 2
  joined : Bytes := []
  newest : Bool := false
  held : Nat := 0
deriving DecidableEq, Repr

namespace Handshake

def receiveAll (domain aligned : Bool) :
    Phase → List (Bool × UInt8 × Bytes) → Except HandshakeClass Phase
  | p, [] => .ok p
  | p, (newest, kind, body) :: r => do
    let message ← TlsMessage.read newest kind body
    receiveAll domain aligned (← p.receive domain aligned message) r

/-- Each message has the form of the version that its first record came under. -/
def labelled (joined newest later : Bool) :
    List (UInt8 × Bytes) → List (Bool × UInt8 × Bytes)
  | [] => []
  | m :: r => (if joined then newest else later, m) :: r.map (later, ·)

def receiveMessages (h : Handshake) (record : TlsRecord) (size : Nat) :
    Except HandshakeClass Handshake :=
  let joined : Bool := h.joined ≠ []
  match TlsMessage.split? (h.joined ++ record.body) with
  | none => .error .other
  | some (messages, left) => do
    let labelledMessages := labelled joined h.newest record.newest messages
    let phase ← receiveAll h.domain (left = []) h.phase labelledMessages
    return { h with
      phase
      joined := left
      newest := if joined && messages = [] then h.newest else record.newest
      held := if left = [] then 0 else h.held + size }

def receiveAlert (h : Handshake) : Bytes → Except HandshakeClass Handshake
  | [level, alert] =>
    if level ≠ 1 then .error (alertClass alert)
    else if h.warnings = 0 then .error .other
    else if h.phase.isSealed && alert ≠ canceled then .error (alertClass alert)
    else .ok { h with warnings := h.warnings - 1 }
  | _ => .error .other

/-- In version 1.3 a change of the cipher means nothing. -/
def receiveChange (h : Handshake) (body : Bytes) : Except HandshakeClass Handshake :=
  if h.phase.isSealed && body = [1] && h.changes ≠ 0 then
    .ok { h with changes := h.changes - 1 }
  else .error .other

def receive (h : Handshake) (record : TlsRecord) (size : Nat) : Except HandshakeClass Handshake :=
  if record.kind = TlsRecord.handshake && !h.phase.isSealed then h.receiveMessages record size
  else if h.joined ≠ [] then .error .other
  else if record.kind = TlsRecord.alert then h.receiveAlert record.body
  else if record.kind = TlsRecord.cipherChange then h.receiveChange record.body
  else .error .other

def run (h : Handshake) (bs : Bytes) : Except HandshakeClass (Handshake × Bytes) :=
  match _h : TlsRecord.start bs with
  | .part => if waitingBound ≤ h.held + bs.length then .error .other else .ok (h, bs)
  | .unknown => .error .other
  | .whole record rest =>
    let size := bs.length - rest.length
    if waitingBound < h.held + size then .error .other
    else
      match h.receive record size with
      | .error trouble => .error trouble
      | .ok h => run h rest
termination_by bs.length
decreasing_by exact TlsRecord.length_start_lt _h

def readAnswer (h : Handshake) (seen : Bytes) (w : Wire) : Awaited HandshakeClass Unit × Wire :=
  match h.run seen with
  | .error trouble => (.failed trouble, w)
  | .ok (h, left) =>
    match _h : Arrival.next w.arrivals with
    | (none, arrivals) => (if w.ended then .failed .other else .waiting, { w with arrivals })
    | (some (.error detail), arrivals) => (.failed (.ofText detail), { w with arrivals })
    | (some (.ok data), arrivals) => readAnswer h (left ++ data) { w with arrivals }
termination_by Arrival.load w.arrivals
decreasing_by exact Arrival.load_next_lt _h

/-- Writes the client's hello, which is not kept among the texts sent, and reads the answer. -/
def attempt (domain : String) : Act Wire HandshakeClass Unit := fun w =>
  match w.trouble w.writes with
  | some detail => (.failed (.ofText detail), { w with writes := w.writes + 1 })
  | none =>
    readAnswer { domain := ServerName.isDomain domain.toList } [] { w with writes := w.writes + 1 }

end Handshake
end XmppStream
