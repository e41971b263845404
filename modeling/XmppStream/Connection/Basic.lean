import XmppStream.Connection.Act
import XmppStream.Connection.Wire
import XmppStream.Reader.Basic

/-! A connection exchanges whole stanzas over a transport. What the reader finds in one read waits
in the inbox until it is asked for, and all of it comes before the peer's close. A fault of the read
is told at once. -/

namespace XmppStream

structure Connection where
  wire : Wire
  reader : Reader
  inbox : List Stanza := []
  /-- The peer's latest header, until it is asked for. -/
  header : Option Header := none
  peerClosed : Bool := false
  /-- The default namespace of our own stream; stanzas in it are written without one. -/
  defaultNs : Option String := none

namespace Connection

def deliver (c : Connection) : Event → Connection
  | .opened header => { c with header := some header }
  | .stanza s => { c with inbox := c.inbox ++ [s] }
  | .closed => { c with peerClosed := true }

def setArrivals (c : Connection) (arrivals : List Arrival) : Connection :=
  { c with wire := { c.wire with arrivals } }

/-- Bytes of the peer, pushed through the reader. Events before a fault are kept. -/
def receive (c : Connection) (data : Bytes) : Awaited ConnectionFault Unit × Connection :=
  let pushed := c.reader.push data
  (match pushed.1.fault with
    | some why => .failed (.reader why)
    | none => .ready (), pushed.2.foldl deliver { c with reader := pushed.1 })

def fill (c : Connection) : Awaited ConnectionFault Unit × Connection :=
  match Arrival.next c.wire.arrivals with
  | (none, arrivals) =>
    if c.wire.ended then (.failed .closed, { c.setArrivals arrivals with peerClosed := true })
    else (.waiting, c.setArrivals arrivals)
  | (some (.error detail), arrivals) => (.failed (.io detail), c.setArrivals arrivals)
  | (some (.ok data), arrivals) => (c.setArrivals arrivals).receive data

@[simp]
theorem wire_foldl_deliver (events : List Event) (c : Connection) :
    (events.foldl deliver c).wire = c.wire := by
  induction events generalizing c with
  | nil => rfl
  | cons e events ih => rw [List.foldl_cons, ih]; cases e <;> rfl

theorem load_fill_lt {c c' : Connection} (h : c.fill = (.ready (), c')) :
    Arrival.load c'.wire.arrivals < Arrival.load c.wire.arrivals := by
  rw [fill] at h
  split at h
  · split at h <;> cases h
  · cases h
  · next e =>
    obtain ⟨-, rfl⟩ := Prod.mk.inj h
    rw [wire_foldl_deliver]
    exact Arrival.load_next_lt e

/-- Reads until `take?` finds what it looks for. What is there is taken before a close counts. -/
def await {α : Type} (take? : Connection → Option (α × Connection)) (c : Connection) :
    Awaited ConnectionFault α × Connection :=
  match take? c with
  | some (a, c) => (.ready a, c)
  | none =>
    if c.peerClosed then (.failed .closed, c)
    else match _h : c.fill with
      | (.ready (), c) => await take? c
      | (.failed why, c) => (.failed why, c)
      | (.waiting, c) => (.waiting, c)
termination_by Arrival.load c.wire.arrivals
decreasing_by exact load_fill_lt _h

def takeHeader? (c : Connection) : Option (Header × Connection) :=
  c.header.map fun header => (header, { c with header := none })

def takeStanza? (c : Connection) : Option (Stanza × Connection) :=
  match c.inbox with
  | [] => none
  | s :: inbox => some (s, { c with inbox })

def recvOpen : Act Connection ConnectionFault Header := await takeHeader?

def recv : Act Connection ConnectionFault Stanza := await takeStanza?

def write (text : String) : Act Connection ConnectionFault Unit := fun c =>
  let (trouble, wire) := c.wire.write text
  (match trouble with
    | some detail => .failed (.io detail)
    | none => .ready (), { c with wire })

def sendOpen (header : Header) : Act Connection ConnectionFault Unit := fun c =>
  match c.reader.framing with
  | .stream => write header.toStreamOpen { c with defaultNs := header.defaultNs }
  | .webSocket => write header.toWebSocketOpen c
  | .standalone => (.ready (), c)

def written (c : Connection) (s : Stanza) : String :=
  match c.defaultNs with
  | some ns => s.toXmlIn ns
  | none => s.toXml

def send (s : Stanza) : Act Connection ConnectionFault Unit := fun c => write (c.written s) c

def sendClose : Act Connection ConnectionFault Unit := fun c =>
  match c.reader.framing with
  | .stream => write Header.streamClose c
  | .webSocket => write Header.webSocketClose c
  | .standalone => (.ready (), c)

/-- The next bytes of the peer begin a new stream. What was read of the old one is dropped. -/
def reset (c : Connection) : Connection :=
  { c with reader := c.reader.reset, inbox := [], header := none, peerClosed := false }

def expectFeatures (features : Stanza) : Act Connection ConnectionFault Stanza :=
  if features.kind = .streamFeatures then pure features
  else Act.fail (.unexpected (.features features))

def channel : Channel Connection := { send, recv }

end Connection
end XmppStream
