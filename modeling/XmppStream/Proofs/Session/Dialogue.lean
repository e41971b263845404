import Mathlib.Logic.Relation
import XmppStream.Proofs.Management.Conservation
import XmppStream.Proofs.Session.Delivery
import XmppStream.Proofs.Session.Frames

/-! A session and a peer that counts what it receives and answers requests. Stanzas are under way in
both directions, in order; each side acts whenever it likes. -/

namespace XmppStream

structure Dialogue where
  session : Session
  /-- The stanzas outside of stream management that the session has sent. -/
  sent : List Stanza := []
  toPeer : List Stanza := []
  counted : Nat := 0
  /-- The requests that the peer has still to answer, each with what was counted when it came. -/
  owed : List Nat := []
  toSession : List Stanza := []

def Session.Call.counted? : Session.Call → Option Stanza
  | send stanza => if stanza.isManagement then none else some stanza
  | _ => none

namespace Dialogue
open Session

/-- A call on the session. The frames that it writes are under way from then on. -/
def call (d : Dialogue) (call : Call) : Dialogue :=
  { d with
    session := call.perform d.session
    sent := d.sent ++ call.counted?.toList
    toPeer := d.toPeer ++ call.frames d.session }

def hear (d : Dialogue) (stanza : Stanza) (later : List Stanza) : Dialogue :=
  { d with
    toPeer := later
    counted := if stanza.isManagement then d.counted else d.counted + 1
    owed := if stanza.kind = .smRequest then d.owed ++ [d.counted] else d.owed }

def tell (d : Dialogue) (stanza : Stanza) (later : List Nat) : Dialogue :=
  { d with owed := later, toSession := d.toSession ++ [stanza] }

def arrive (d : Dialogue) (arrivals : List Arrival) (later : List Stanza) : Dialogue :=
  { d with
    session := d.session.setConnection (d.session.connection.arrive arrivals)
    toSession := later }

inductive Counting where
  /-- What it had counted when the request came. -/
  | onRequest
  /-- Anything from that up to what it has counted when it answers. -/
  | untilAnswer

def Counting.Allows (counting : Counting) (asked now count : Nat) : Prop :=
  match counting with
  | onRequest => count = asked
  | untilAnswer => asked ≤ count ∧ count ≤ now

theorem Counting.allows_asked (counting : Counting) {asked now : Nat} (come : asked ≤ now) :
    counting.Allows asked now asked := by
  cases counting with
  | onRequest => rfl
  | untilAnswer => exact ⟨Nat.le_refl asked, come⟩

/-- One act of either side, or the arrival of something. The session makes only calls that it may. -/
inductive Step (counting : Counting) (may : Call → Prop) : Dialogue → Dialogue → Prop where
  | call {d : Dialogue} {call : Call} : may call → Step counting may d (d.call call)
  | hear {d : Dialogue} {stanza : Stanza} {later : List Stanza} : d.toPeer = stanza :: later →
      Step counting may d (d.hear stanza later)
  /-- Requests are answered in order, one answer to each. -/
  | answer {d : Dialogue} {asked count : Nat} {later : List Nat} {frame : Stanza} :
      d.owed = asked :: later → counting.Allows asked d.counted count → frame.kind = .smAck →
      Ledger.countOf? frame = some (UInt32.ofNat count) → Step counting may d (d.tell frame later)
  /-- The peer sends whatever else it likes, but no acknowledgement. -/
  | tell {d : Dialogue} {stanza : Stanza} : stanza.kind ≠ .smAck →
      Step counting may d (d.tell stanza d.owed)
  /-- The session's reader finds in the bytes the next of the stanzas under way, any number of
  them. -/
  | arrive {d : Dialogue} {arrivals : List Arrival} {now later : List Stanza} :
      d.toSession = now ++ later →
      (d.session.connection.arrive arrivals).unread = d.session.connection.unread ++ now →
      Step counting may d (d.arrive arrivals later)

def Run (counting : Counting) (may : Call → Prop) : Dialogue → Dialogue → Prop :=
  Relation.ReflTransGen (Step counting may)

/-- The counts that the peer will answer with, given what it has counted and what will come. -/
def owedFor (counted : Nat) : List Stanza → List Nat
  | [] => []
  | s :: ss =>
    (if s.kind = .smRequest then [counted] else [])
      ++ owedFor (if s.isManagement then counted else counted + 1) ss

theorem owedFor_append (counted : Nat) (ss ts : List Stanza) :
    owedFor counted (ss ++ ts) = owedFor counted ss ++ owedFor (counted + Stanza.countedIn ss) ts := by
  induction ss generalizing counted with
  | nil => rfl
  | cons s ss ih =>
    rw [List.cons_append, owedFor, owedFor, ih, Stanza.countedIn_cons, List.append_assoc]

theorem owedFor_eq_nil (n : Nat) {ss : List Stanza} (h : ∀ s ∈ ss, s.kind ≠ .smRequest) :
    owedFor n ss = [] := by
  induction ss generalizing n with
  | nil => rfl
  | cons s ss ih =>
    obtain ⟨first, rest⟩ := List.forall_mem_cons.1 h
    rw [owedFor, if_neg first, ih _ rest]
    rfl

def acknowledged (ss : List Stanza) : List (Option UInt32) :=
  (ss.filter (·.kind = .smAck)).map Ledger.countOf?

/-- The counts of the acknowledgements that the session deals with if it receives now. -/
def taken (d : Dialogue) : List (Option UInt32) :=
  acknowledged ((Call.recv.takings d.session).map Taking.stanza)

/-- What a dialogue goes by is what the session's own functions do. -/
structure Tied (d : Dialogue) : Prop where
  /-- Each call writes the frames that it puts under way, and nothing else. -/
  sends : ∀ call : Call,
    d.session.connection.Sends (call.frames d.session) (call.perform d.session).connection
  /-- Receiving takes its takings off the connection. -/
  gives : d.session.connection.Gives ((Call.recv.takings d.session).map Taking.stanza)
    (Session.recv d.session).2.connection
  /-- Receiving leaves the ledger that its takings lead to. -/
  accounts : Accounts d.session.ledger (Call.recv.takings d.session)
    (Session.recv d.session).2.ledger

theorem tied {d : Dialogue} (works : d.session.connection.Works) : d.Tied where
  sends call := sends_perform call works
  gives := (delivers_recv d.session).gives
  accounts := (accounts_recv d.session).1

/-- The counts of the acknowledgements still to be dealt with: those that have arrived or are under
way, those that are owed, and those that the requests under way will lead to. -/
def pending (d : Dialogue) : List (Option UInt32) :=
  acknowledged (d.session.connection.unread ++ d.toSession)
    ++ (d.owed ++ owedFor d.counted d.toPeer).map fun n => some (UInt32.ofNat n)

theorem acknowledged_append (ss ts : List Stanza) :
    acknowledged (ss ++ ts) = acknowledged ss ++ acknowledged ts := by
  rw [acknowledged, List.filter_append, List.map_append, acknowledged, acknowledged]

theorem acknowledged_cons_of_ack {s : Stanza} (ack : s.kind = .smAck) (ss : List Stanza) :
    acknowledged (s :: ss) = Ledger.countOf? s :: acknowledged ss := by
  rw [acknowledged, List.filter_cons_of_pos (by simpa using ack), List.map_cons, acknowledged]

theorem acknowledged_cons_of_ne {s : Stanza} (other : s.kind ≠ .smAck) (ss : List Stanza) :
    acknowledged (s :: ss) = acknowledged ss := by
  rw [acknowledged, List.filter_cons_of_neg (by simpa using other), acknowledged]

theorem acknowledged_eq_nil {ss : List Stanza} (h : ∀ s ∈ ss, s.kind ≠ .smAck) :
    acknowledged ss = [] := by
  rw [acknowledged, List.filter_eq_nil_iff.2 fun s mem => by simpa using h s mem]
  rfl

/-- Neither the peer nor the transport changes what is pending, but for the count of an answer. -/
theorem pending_hear {d : Dialogue} {stanza : Stanza} {later : List Stanza}
    (next : d.toPeer = stanza :: later) :
    (d.hear stanza later).pending = d.pending := by
  unfold pending hear
  rw [next, owedFor]
  dsimp only
  by_cases request : stanza.kind = .smRequest
  · rw [if_pos request, if_pos request, List.append_assoc]
  · rw [if_neg request, if_neg request]
    rfl

theorem pending_answer {d : Dialogue} {asked count : Nat} {later : List Nat} {frame : Stanza}
    (next : d.owed = asked :: later) (ack : frame.kind = .smAck)
    (counts : Ledger.countOf? frame = some (UInt32.ofNat count)) :
    ∃ before after, d.pending = before ++ some (UInt32.ofNat asked) :: after
      ∧ (d.tell frame later).pending = before ++ some (UInt32.ofNat count) :: after := by
  refine ⟨acknowledged (d.session.connection.unread ++ d.toSession),
    (later ++ owedFor d.counted d.toPeer).map fun n => some (UInt32.ofNat n), ?_, ?_⟩
  · unfold pending
    rw [next]
    rfl
  · unfold pending tell
    rw [← List.append_assoc, acknowledged_append, acknowledged_cons_of_ack ack, counts,
      List.append_assoc]
    rfl

theorem pending_tell {d : Dialogue} {stanza : Stanza} (other : stanza.kind ≠ .smAck) :
    (d.tell stanza d.owed).pending = d.pending := by
  unfold pending tell
  rw [← List.append_assoc, acknowledged_append, acknowledged_cons_of_ne other]
  exact congrArg (· ++ _) (List.append_nil _)

theorem pending_arrive {d : Dialogue} {arrivals : List Arrival} {now later : List Stanza}
    (next : d.toSession = now ++ later)
    (found : (d.session.connection.arrive arrivals).unread = d.session.connection.unread ++ now) :
    (d.arrive arrivals later).pending = d.pending := by
  unfold pending
  rw [next, ← List.append_assoc, ← found]
  rfl

end Dialogue
end XmppStream
