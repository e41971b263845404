import XmppStream.StartTls.ServerHello

/-! The messages of a TLS handshake: a kind, and a body after its length in three bytes. Some have
another form in version 1.3 of TLS. It stands for the parser of a TLS client library: what is kept of
a message is what the handshake goes on from, and the trouble with one that is refused. -/

namespace XmppStream

inductive TlsContent where
  | hello (hello : ServerHello)
  | extensions (extensions : Extensions)
  | chain (certificates : List Bytes)
  | sealedChain (context : Bytes) (certificates : List Bytes)
  | status
  | keys (body : Bytes)
  | request
  | sealedRequest (context : Bytes) (schemes : List Nat)
  | done
  | signature (scheme : Nat)
  | other

structure TlsMessage where
  kind : UInt8
  content : TlsContent

namespace TlsMessage

open Scan

def chainBound : Nat := 65536

def chain {α : Type} (certificate : Scan α) : Scan (List α) := do
  let size ← number 3
  certified (check (size ≤ chainBound))
  row (fun _ => certificate) [] (← take size)

def status : Scan Unit := do
  certified (do check ((← number 1) = 1))
  discard (nonempty 3)

def sealedCertificate : Scan Bytes := do
  let certificate ← field 3
  discard (ExtensionRules.read { forms := [(5, status)], repeats := true, excess := .certificate })
  return certificate

def schemes : Scan (List Nat) := do
  let schemes ← list 2 (number 2)
  check (schemes ≠ [])
  return schemes

def authorities : Scan Unit := discard (list 2 (nonempty 2))

def request : Scan Unit := do
  let kinds ← field 1
  certified (check (kinds ≠ []))
  discard schemes
  authorities

def compressions : Scan Unit := do
  let ways ← list 1 (certified (number 2))
  certified (check (ways ≠ []))

def requestRules : ExtensionRules where
  forms := [(13, discard schemes), (27, compressions), (47, authorities)]
  excess := .certificate

def schemesIn (extensions : Extensions) : List Nat :=
  match extensions.lookup 13 with
  | none => []
  | some body => (Scan.all .other schemes body).toOption.getD []

def compressedChain : Scan Unit := do
  discard (certified (number 2))
  discard (number 3)
  discard (nonempty 3)

def ticket : Scan Unit := do
  discard (number 4)
  discard (field 2)

def sealedTicket : Scan Unit := do
  discard (number 8)
  discard (field 1)
  discard (nonempty 2)
  discard (ExtensionRules.read { forms := [(42, discard (number 4))], repeats := true })

def statusRequest : Scan Unit := do
  if (← certified (number 1)) = 1 then
    discard (list 2 (field 2))
    discard (field 2)
  else discard rest

def certificateKinds : Scan Unit := do
  let kinds ← field 1
  certified (check (kinds ≠ []))

def numbers (width : Nat) : Scan Unit := do check ((← list width (number 2)) ≠ [])

def clientRules : ExtensionRules where
  forms := [(0, discard (nonempty 2)), (5, statusRequest), (10, numbers 2),
    (11, discard (nonempty 1)), (13, discard schemes),
    (16, do check ((← list 2 (nonempty 1)) ≠ [])), (19, certificateKinds), (20, certificateKinds),
    (23, pure ()), (27, compressions), (42, pure ()), (43, numbers 1), (44, discard (nonempty 2)),
    (45, discard (nonempty 1)), (47, authorities), (51, discard (list 2 ServerHello.keyShare)),
    (0xff01, discard (field 1))]

def clientHello : Scan Unit := do
  discard (take 34)
  ServerHello.sessionId
  numbers 2
  discard (nonempty 1)
  fun bs => if bs = [] then .ok ((), []) else discard clientRules.read bs

def serverHello : Scan TlsContent := do
  let version ← number 2
  let random ← take 32
  if random = ServerHello.retryMark then
    ServerHello.readRetry
    return .other
  else return .hello (← ServerHello.read version random)

def readContent (newest : Bool) (kind : UInt8) : Scan TlsContent :=
  match kind with
  | 1 => do clientHello; return .other
  | 2 => serverHello
  | 4 => do (if newest then sealedTicket else ticket); return .other
  | 5 => return .other
  | 6 => refuse
  | 8 => return .extensions (← ServerHello.rules.read)
  | 11 =>
    if newest then return .sealedChain (← field 1) (← chain sealedCertificate)
    else return .chain (← chain (field 3))
  | 12 => return .keys (← rest)
  | 13 =>
    if newest then return .sealedRequest (← field 1) (schemesIn (← requestRules.read))
    else do request; return .request
  | 14 => return .done
  | 15 => do
    let scheme ← number 2
    discard (field 2)
    return .signature scheme
  | 22 => do status; return .status
  | 24 => do discard (number 1); return .other
  | 25 => do compressedChain; return .other
  | 254 => refuse
  | _ => do discard rest; return .other

def read (newest : Bool) (kind : UInt8) (body : Bytes) : Except HandshakeClass TlsMessage :=
  (Scan.all .other (readContent newest kind) body).map (⟨kind, ·⟩)

def namesCertificate (m : TlsMessage) : Bool := [11, 13, 15, 21, 22, 25].contains m.kind

def bound : Nat := 65535

/-- Takes whole messages, as kinds and bodies, from the front of bytes, and gives what is left.
There is none if a body is too long, also if it is the one that is not whole. -/
def split? (bs : Bytes) : Option (List (UInt8 × Bytes) × Bytes) :=
  match bs with
  | kind :: high :: middle :: low :: r =>
    let size := numberOf [high, middle, low]
    if bound < size then none
    else if r.length < size then some ([], bs)
    else (split? (r.drop size)).map fun (messages, left) => ((kind, r.take size) :: messages, left)
  | _ => some ([], bs)
termination_by bs.length
decreasing_by
  simp only [List.length_drop, List.length_cons]
  omega

end TlsMessage
end XmppStream
