import XmppStream.Management.Fault
import XmppStream.Stanza
import XmppStream.Text.Numeral

/-! The ledger of stream management: how many stanzas went each way, modulo `2 ^ 32`, and which of
those sent the peer has not acknowledged. An acknowledgement releases the oldest of them, whatever
count it carries. -/

namespace XmppStream

/-- When a request for an acknowledgement follows a sent stanza: after each whose number is a
multiple of `requestEvery`. -/
structure AckPolicy where
  requestEvery : Option UInt32 := some 1
deriving DecidableEq, Repr

def AckPolicy.due (p : AckPolicy) (number : UInt32) : Bool :=
  match p.requestEvery with
  | some every => every ≠ 0 && number % every = 0
  | none => false

structure Ledger where
  sent : UInt32 := 0
  received : UInt32 := 0
  unacked : List (UInt32 × Stanza) := []
deriving DecidableEq, Repr

namespace Ledger

def record (l : Ledger) (s : Stanza) : Ledger :=
  { l with sent := l.sent + 1, unacked := l.unacked ++ [(l.sent + 1, s)] }

def countReceived (l : Ledger) : Ledger := { l with received := l.received + 1 }

def release (l : Ledger) : Option (UInt32 × Stanza) × Ledger :=
  (l.unacked.head?, { l with unacked := l.unacked.tail })

/-- What an acknowledgement releases. Its count is not used. -/
def acknowledge (l : Ledger) (_count : UInt32) : Option (UInt32 × Stanza) × Ledger := l.release

def enableFrame (resume : Bool) : Stanza :=
  { name := "enable", ns := Namespace.management
    attrs := if resume then [("resume", "true")] else [] }

def requestFrame : Stanza := { name := "r", ns := Namespace.management }

def ackFrame (l : Ledger) : Stanza :=
  { name := "a", ns := Namespace.management, attrs := [("h", toString l.received.toNat)] }

def counter? (text : String) : Option UInt32 :=
  let digits := match text.toList with
    | '+' :: r => r
    | cs => cs
  ((Numeral.read 10 UInt32.size digits).toOption).map UInt32.ofNat

/-- Takes a management frame of the peer; the value is the frame to answer with. -/
def handle (l : Ledger) (frame : Stanza) : Except ManagementFault (Option Stanza) × Ledger :=
  match frame.kind with
  | .smRequest => (.ok (some l.ackFrame), l)
  | .smAck =>
    match frame.attr "h" with
    | none => (.error (.invalidAck .missingCount), l)
    | some text =>
      match counter? text with
      | none => (.error (.invalidAck (.notACounter text)), l)
      | some count => (.ok none, (l.acknowledge count).2)
  | _ => (.ok none, l)

end Ledger
end XmppStream
