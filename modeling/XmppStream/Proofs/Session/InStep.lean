import XmppStream.Proofs.Session.Answers
import XmppStream.Proofs.Session.Dialogue
import XmppStream.Proofs.Stanza

/-! A session that asks for an acknowledgement after each stanza and at no other time keeps in step
with its peer: every acknowledgement that it deals with counts up to the oldest stanza in its ledger,
the one that is released. -/

namespace XmppStream

theorem Stanza.isManagement_of_kind {s : Stanza} (h : s.kind = .smRequest ∨ s.kind = .smAck) :
    s.isManagement := by
  by_cases ns : s.ns = Namespace.management
  · exact decide_eq_true ns
  exfalso
  have apart : ∀ entry ∈ kindsOf s.ns, entry.2 ≠ .smRequest ∧ entry.2 ≠ .smAck := by
    unfold kindsOf
    rw [if_neg ns]
    split_ifs <;> decide
  rcases h with request | ack
  · have there := mem_kindsOf (by decide) request
    exact (apart _ there).1 rfl
  · have there := mem_kindsOf (by decide) ack
    exact (apart _ there).2 rfl

/-- A frame acknowledges the oldest entry, the stanza of `ss` with number `n + 1`. This entry is
released, and the stanzas after it are left. -/
structure Ledger.Releases (l : Ledger) (frame : Stanza) (ss : List Stanza) (n : Nat)
    (stanza : Stanza) : Prop where
  counts : countOf? frame = some (UInt32.ofNat (n + 1))
  sent : ss[n]? = some stanza
  oldest : l.unacked = (UInt32.ofNat (n + 1), stanza) :: (numbered ss).drop (n + 1)
  left : l.handle frame = (.ok none, { l with unacked := (numbered ss).drop (n + 1) })

def Session.Taking.Releases (ss : List Stanza) : Session.Taking → Prop
  | .frame s l => s.kind = .smAck → ∃ n stanza, l.Releases s ss n stanza
  | _ => True

/-- The calls of an application that leaves stream management to the session. -/
def Session.Call.InStep : Session.Call → Prop
  | .send stanza => ¬ stanza.isManagement
  | .recv => True
  | .enable _ => True
  | _ => False

namespace Dialogue
open Session

def numbers (l : Ledger) : List (Option UInt32) := l.unacked.map fun entry => some entry.1

theorem releases_of_counts {l : Ledger} {out : List (UInt32 × Stanza)} {ss : List Stanza}
    {frame : Stanza} {later : List (Option UInt32)} (balanced : l.Balanced out ss)
    (ack : frame.kind = .smAck) (counts : Ledger.countOf? frame :: later = numbers l) :
    (∃ n stanza, l.Releases frame ss n stanza) ∧ later = numbers (l.handle frame).2 := by
  rw [numbers] at counts
  cases waiting : l.unacked with
  | nil =>
    rw [waiting] at counts
    cases counts
  | cons entry rest =>
    rw [waiting] at counts
    obtain ⟨count, later⟩ := List.cons.inj counts
    have handled : l.handle frame = (.ok none, { l with unacked := rest }) := by
      rw [Ledger.handle_of_counts ack count, Ledger.acknowledge, Ledger.release, waiting]
      rfl
    refine ⟨?_, by rw [handled]; exact later⟩
    obtain ⟨stanza, sent, rfl, rfl⟩ := balanced.next waiting
    exact ⟨out.length, stanza, count, sent, waiting, handled⟩

/-- Of the stanzas sent, receiving releases `k` after the first `n`. The acknowledgements that it takes
in count to these in order, one to each, and the ledger is left with the stanzas that they do not
cover. -/
structure Clears (d : Dialogue) (n k : Nat) : Prop where
  before : ∃ l, d.session.ledger = some l ∧ l.unacked = (Ledger.numbered d.sent).drop n
  taken : d.taken = (List.range' (n + 1) k).map fun count => some (UInt32.ofNat count)
  after : ∃ l, (Session.recv d.session).2.ledger = some l
    ∧ l.unacked = (Ledger.numbered d.sent).drop (n + k)

theorem numbers_of_balanced {l : Ledger} {out : List (UInt32 × Stanza)} {ss : List Stanza}
    (balanced : l.Balanced out ss) : numbers l =
      (List.range' (out.length + 1) l.unacked.length).map fun n => some (UInt32.ofNat n) := by
  change l.unacked.map (some ∘ Prod.fst) = _
  rw [← List.map_map, balanced.counts, List.map_map]
  rfl

/-- If the acknowledgements to come count to the entries in order, each that is taken releases the
one it counts to. -/
theorem releases_of_accounts {on off : Option Ledger} {ts : List Taking} (h : Accounts on ts off)
    {l : Ledger} (ledger : on = some l) {out : List (UInt32 × Stanza)} {ss : List Stanza}
    (balanced : l.Balanced out ss) {later : List (Option UInt32)}
    (counts : acknowledged (ts.map Taking.stanza) ++ later = numbers l) :
    (∃ l' out', off = some l' ∧ l'.Balanced out' ss ∧ later = numbers l')
      ∧ ∀ t ∈ ts, t.Releases ss := by
  -- On the takings; what is still to come always counts to the entries that are left.
  induction h generalizing l out with
  | nil => exact ⟨⟨l, out, ledger, balanced, counts⟩, fun _ mem => by cases mem⟩
  | @cons a b c t ts change _ ih =>
    cases change with
    | @frame s l₀ management =>
      cases ledger
      change acknowledged (s :: ts.map Taking.stanza) ++ later = _ at counts
      by_cases ack : s.kind = .smAck
      · rw [acknowledged_cons_of_ack ack] at counts
        obtain ⟨first, left⟩ := releases_of_counts balanced ack counts
        obtain ⟨done, rest⟩ := ih rfl (balanced.handle s) left
        exact ⟨done, List.forall_mem_cons.2 ⟨fun _ => first, rest⟩⟩
      · have same : (l.handle s).2 = l := Ledger.handle_eq_self (.inr ack)
        rw [acknowledged_cons_of_ne ack, ← same] at counts
        obtain ⟨done, rest⟩ := ih rfl (balanced.handle s) counts
        exact ⟨done, List.forall_mem_cons.2 ⟨fun is => absurd is ack, rest⟩⟩
    | @counted s l₀ other =>
      cases ledger
      have uncounted : s.kind ≠ .smAck := fun ack => other (Stanza.isManagement_of_kind (.inr ack))
      change acknowledged (s :: ts.map Taking.stanza) ++ later = _ at counts
      rw [acknowledged_cons_of_ne uncounted] at counts
      obtain ⟨done, rest⟩ := ih rfl balanced.countReceived counts
      exact ⟨done, List.forall_mem_cons.2 ⟨trivial, rest⟩⟩
    | kept => cases ledger
    | enabled => cases ledger
    | refused => cases ledger
    | uncounted => cases ledger

/-- Stream management is on in the session, after the stanzas `d.sent` were sent and the entries
`out` released. Whatever is pending counts to the entries that are left. -/
structure InStep (d : Dialogue) (l : Ledger) (out : List (UInt32 × Stanza)) : Prop where
  works : d.session.connection.Works
  every : d.session.policy.requestEvery = some 1
  ledger : d.session.ledger = some l
  balanced : l.Balanced out d.sent
  pending : d.pending = numbers l
  counted : d.counted + Stanza.countedIn d.toPeer = d.sent.length

theorem pending_call {d : Dialogue} {call : Call} {given : List Stanza}
    (gives : d.session.connection.Gives given (call.perform d.session).connection) :
    ∃ rest, d.pending = acknowledged given ++ rest
      ∧ (d.call call).pending = rest ++
        (owedFor (d.counted + Stanza.countedIn d.toPeer) (call.frames d.session)).map
          fun n => some (UInt32.ofNat n) := by
  refine ⟨acknowledged ((call.perform d.session).connection.unread ++ d.toSession)
    ++ (d.owed ++ owedFor d.counted d.toPeer).map fun n => some (UInt32.ofNat n), ?_, ?_⟩
  · unfold pending
    rw [gives.unread, List.append_assoc, acknowledged_append, List.append_assoc]
  · unfold pending Dialogue.call
    dsimp only
    rw [owedFor_append, ← List.append_assoc, List.map_append, List.append_assoc]

theorem due_of_every {p : AckPolicy} (every : p.requestEvery = some 1) (n : UInt32) :
    p.due n = true := by
  rw [AckPolicy.due, every]
  simp

theorem owedFor_requested (n : Nat) {stanza : Stanza} (counts : ¬ stanza.isManagement) :
    owedFor n [stanza, Ledger.requestFrame] = [n + 1] := by
  have kind : stanza.kind ≠ .smRequest := fun request =>
    counts (Stanza.isManagement_of_kind (.inl request))
  rw [owedFor, if_neg kind, if_neg counts]
  rfl

theorem countedIn_requested {stanza : Stanza} (counts : ¬ stanza.isManagement) :
    Stanza.countedIn [stanza, Ledger.requestFrame] = 1 := by
  rw [Stanza.countedIn, List.countP_cons_of_pos (by simpa using counts)]
  rfl

theorem numbers_record (l : Ledger) (stanza : Stanza) :
    numbers (l.record stanza) = numbers l ++ [some (l.sent + 1)] := List.map_append

theorem kind_of_reply {ts : List Taking} {frame : Stanza} (h : frame ∈ ts.filterMap Taking.reply?) :
    frame.isManagement ∧ frame.kind ≠ .smRequest := by
  obtain ⟨t, -, reply⟩ := List.mem_filterMap.1 h
  cases t with
  | frame s l =>
    rw [reply?_frame] at reply
    split_ifs at reply
    · cases reply
      have kind : l.ackFrame.kind = .smAck := rfl
      exact ⟨rfl, by rw [kind]; decide⟩
  | _ => cases reply

theorem owedFor_recv (n : Nat) (s : Session) : owedFor n (Call.recv.frames s) = [] :=
  owedFor_eq_nil n fun _ mem => (kind_of_reply mem).2

theorem countedIn_recv (s : Session) : Stanza.countedIn (Call.recv.frames s) = 0 := by
  apply List.countP_eq_zero.2
  intro frame mem
  simpa using (kind_of_reply mem).1

theorem call_enable_of_on {d : Dialogue} {l : Ledger} (on : d.session.ledger = some l)
    (resume : Bool) : d.call (.enable resume) = d := by
  have settled : ¬ (d.session.ledger = none ∧ d.session.offersManagement) := by
    rw [on]
    exact fun off => Option.some_ne_none l off.1
  have performed : (Call.enable resume).perform d.session = d.session := enable_eq_self settled
  have frames : (Call.enable resume).frames d.session = [] := if_neg settled
  have sent : d.sent ++ (Call.enable resume).counted?.toList = d.sent := List.append_nil _
  rw [Dialogue.call, performed, frames, sent, List.append_nil]

namespace InStep

variable {d : Dialogue} {l : Ledger} {out : List (UInt32 × Stanza)}

theorem entered (h : InStep d l out) {stanza : Stanza} (counts : ¬ stanza.isManagement) :
    enter stanza d.session = (true, { d.session with ledger := some (l.record stanza) }) := by
  rw [enter, h.ledger]
  dsimp only
  rw [if_neg counts, due_of_every h.every]

theorem pending_send (h : InStep d l out) {stanza : Stanza} (counts : ¬ stanza.isManagement)
    (frames : (Call.send stanza).frames d.session = [stanza, Ledger.requestFrame]) :
    (d.call (.send stanza)).pending = numbers (l.record stanza) := by
  have gives : d.session.connection.Gives [] ((Call.send stanza).perform d.session).connection :=
    (keeps_send stanza d.session).gives
  have number : UInt32.ofNat (d.sent.length + 1) = l.sent + 1 := by
    rw [UInt32.ofNat_add, h.balanced.sent]
    rfl
  obtain ⟨rest, before, after⟩ := pending_call gives
  have same : rest = numbers l := before.symm.trans h.pending
  rw [after, frames, h.counted, owedFor_requested _ counts, numbers_record, same,
    List.map_singleton, number]

theorem send (h : InStep d l out) {stanza : Stanza} (counts : ¬ stanza.isManagement) :
    InStep (d.call (.send stanza)) (l.record stanza) out := by
  have frames : (Call.send stanza).frames d.session = [stanza, Ledger.requestFrame] := by
    rw [Call.frames, h.entered counts]
    rfl
  obtain ⟨c, sent, -⟩ := send_of_works h.works stanza
  rw [h.entered counts] at sent
  have performed : (Call.send stanza).perform d.session =
      { d.session with connection := c, ledger := some (l.record stanza) } := congrArg Prod.snd sent
  have counted : (Call.send stanza).counted? = some stanza := if_neg counts
  have grown : (d.call (.send stanza)).sent = d.sent ++ [stanza] := by
    rw [Dialogue.call, counted]
    rfl
  refine ⟨(sends_perform (.send stanza) h.works).works, ?_, ?_, ?_, h.pending_send counts frames, ?_⟩
  · rw [Dialogue.call, performed]
    exact h.every
  · rw [Dialogue.call, performed]
  · rw [grown]
    exact h.balanced.record stanza
  · rw [grown, Dialogue.call, frames]
    dsimp only
    rw [Stanza.countedIn_append, countedIn_requested counts, ← Nat.add_assoc, h.counted,
      List.length_append]
    rfl

theorem recv (h : InStep d l out) :
    (∃ l' out', InStep (d.call .recv) l' out')
      ∧ ∀ t ∈ Call.recv.takings d.session, t.Releases d.sent := by
  obtain ⟨accounts, policy⟩ := accounts_recv d.session
  obtain ⟨rest, before, after⟩ := pending_call (delivers_recv d.session).gives
  rw [h.pending] at before
  obtain ⟨⟨l', out', ledger, balanced, left⟩, releases⟩ :=
    releases_of_accounts accounts h.ledger h.balanced before.symm
  have same : (d.call .recv).sent = d.sent := List.append_nil _
  refine ⟨⟨l', out', (sends_perform .recv h.works).works, policy ▸ h.every, ledger, ?_, ?_, ?_⟩,
    releases⟩
  · rw [same]
    exact balanced
  · rw [after, owedFor_recv, ← left]
    exact List.append_nil _
  · rw [same, Dialogue.call]
    dsimp only
    rw [Stanza.countedIn_append, countedIn_recv]
    exact h.counted

theorem clears (h : InStep d l out) : ∃ n k, d.Clears n k := by
  obtain ⟨rest, before, -⟩ := pending_call (delivers_recv d.session).gives
  rw [h.pending] at before
  obtain ⟨⟨l', out', ledger, balanced, left⟩, -⟩ :=
    releases_of_accounts (accounts_recv d.session).1 h.ledger h.balanced before.symm
  have all := h.balanced.length
  have later := balanced.length
  change numbers l = d.taken ++ rest at before
  -- What is taken and what is left make up the entries, so the lengths give the place.
  have split : d.taken.length + l'.unacked.length = l.unacked.length := by
    have lengths := congrArg List.length before
    rw [left, List.length_append, numbers, numbers, List.length_map, List.length_map] at lengths
    exact lengths.symm
  have place : out.length + d.taken.length = out'.length := by omega
  refine ⟨out.length, d.taken.length, ⟨l, h.ledger, h.balanced.unacked⟩, ?_, l', ledger, ?_⟩
  · have from_here : out'.length + 1 = out.length + 1 + 1 * d.taken.length := by omega
    rw [left, numbers_of_balanced h.balanced, numbers_of_balanced balanced, ← split, from_here,
      ← List.range'_append, List.map_append] at before
    exact (List.append_cancel_right before).symm
  · rw [place]
    exact balanced.unacked

theorem step {d' : Dialogue} (h : InStep d l out) (step : Step .onRequest Call.InStep d d') :
    ∃ l' out', InStep d' l' out' := by
  cases step with
  | @call call may =>
    cases call with
    | send stanza => exact ⟨_, _, h.send may⟩
    | recv => exact h.recv.1
    | enable resume =>
      rw [call_enable_of_on h.ledger]
      exact ⟨l, out, h⟩
    | requestAck => exact may.elim
    | arrive => exact may.elim
  | @hear stanza later next =>
    have counted := h.counted
    rw [next, Stanza.countedIn_cons] at counted
    exact ⟨l, out, h.works, h.every, h.ledger, h.balanced, (pending_hear next).trans h.pending,
      counted⟩
  | answer next exact ack counts =>
    cases exact
    obtain ⟨before, after, pending, pending'⟩ := pending_answer next ack counts
    exact ⟨l, out, h.works, h.every, h.ledger, h.balanced,
      (pending'.trans pending.symm).trans h.pending, h.counted⟩
  | tell other =>
    exact ⟨l, out, h.works, h.every, h.ledger, h.balanced, (pending_tell other).trans h.pending,
      h.counted⟩
  | arrive next found =>
    exact ⟨l, out, h.works, h.every, h.ledger, h.balanced,
      (pending_arrive next found).trans h.pending, h.counted⟩

theorem run {d' : Dialogue} (h : InStep d l out) (run : Run .onRequest Call.InStep d d') :
    ∃ l' out', InStep d' l' out' := by
  induction run with
  | refl => exact ⟨l, out, h⟩
  | tail _ next ih =>
    obtain ⟨l', out', h'⟩ := ih
    exact h'.step next

end InStep

/-- Stream management has just been turned on in a session that asks for an acknowledgement after
each stanza, and its application leaves stream management to it. The peer answers each request with
what it had counted when it took the request in: with a later count an answer could run ahead of the
entry that it releases. However the two and the transport take turns: the acknowledgements that have
arrived count to the oldest entries of the ledger, one to each; each that the session deals with
releases the one stanza that it counts to and leaves those sent later; and once the session has
received, its ledger holds the stanzas sent that no acknowledgement has covered. -/
theorem acknowledged_in_step {s : Session} {d : Dialogue} (works : s.connection.Works)
    (every : s.policy.requestEvery = some 1) (on : s.ledger = some {})
    (unread : ∀ stanza ∈ s.connection.unread, stanza.kind ≠ .smAck)
    (run : Run .onRequest Call.InStep { session := s } d) :
    (∃ l, d.session.ledger = some l ∧ acknowledged d.session.connection.unread <+: numbers l
        ∧ ∀ t ∈ Call.recv.takings d.session, t.Releases d.sent)
      ∧ d.Tied ∧ ∃ n k, d.Clears n k := by
  have start : InStep { session := s } {} [] := by
    refine ⟨works, every, on, .fresh, ?_, rfl⟩
    unfold pending
    rw [List.append_nil, acknowledged_eq_nil unread]
    rfl
  obtain ⟨l, out, inStep⟩ := start.run run
  refine ⟨⟨l, inStep.ledger, ?_, inStep.recv.2⟩, tied inStep.works, inStep.clears⟩
  rw [← inStep.pending, pending, acknowledged_append, List.append_assoc]
  exact List.prefix_append _ _

def opened : Session where
  connection := {
    wire := {}
    reader := { framing := .standalone, limit := 200 }
    inbox := [Ledger.requestFrame] }
  features := { name := "features", ns := Namespace.stream }
  policy := {}
  ledger := some {}

def greeting : Stanza := { name := "message", ns := Namespace.client }

def status : Stanza := { name := "presence", ns := Namespace.client }

def sentBoth : Dialogue :=
  (({ session := opened } : Dialogue).call (.send greeting)).call (.send status)

def heardBoth : Dialogue :=
  (((sentBoth.hear greeting [Ledger.requestFrame, status, Ledger.requestFrame]).hear
    Ledger.requestFrame [status, Ledger.requestFrame]).hear status [Ledger.requestFrame]).hear
      Ledger.requestFrame []

def answerBytes : List Arrival :=
  [.bytes (Utf8.encode "<a xmlns='urn:xmpp:sm:3' h='1'/><a xmlns='urn:xmpp:sm:3' h='2'/>")]

def answeredBoth : Dialogue :=
  ((heardBoth.tell (Ledger.acknowledgement 1) [2]).tell (Ledger.acknowledgement 2) []).arrive
    answerBytes []

theorem run_sentBoth : Run .onRequest Call.InStep { session := opened } sentBoth := by
  have greets : Call.InStep (.send greeting) := show ¬ greeting.isManagement by decide
  have informs : Call.InStep (.send status) := show ¬ status.isManagement by decide
  exact (Relation.ReflTransGen.single (.call greets)).tail (.call informs)

theorem run_heardBoth : Run .onRequest Call.InStep sentBoth heardBoth := by
  have under_way : sentBoth.toPeer =
      [greeting, Ledger.requestFrame, status, Ledger.requestFrame] := by decide +kernel
  exact (((Relation.ReflTransGen.single (.hear under_way)).tail (.hear rfl)).tail (.hear rfl)).tail
    (.hear rfl)

theorem run_answeredBoth : Run .onRequest Call.InStep heardBoth answeredBoth := by
  have owed : heardBoth.owed = [1, 2] := by decide +kernel
  have one : Ledger.countOf? (Ledger.acknowledgement 1) = some (UInt32.ofNat 1) := by decide +kernel
  have two : Ledger.countOf? (Ledger.acknowledgement 2) = some (UInt32.ofNat 2) := by decide +kernel
  have comes : ((heardBoth.tell (Ledger.acknowledgement 1) [2]).tell (Ledger.acknowledgement 2)
      []).toSession = [Ledger.acknowledgement 1, Ledger.acknowledgement 2] ++ [] := by decide +kernel
  exact ((Relation.ReflTransGen.single (.answer owed rfl (by decide) one)).tail
    (.answer rfl rfl (by decide) two)).tail (.arrive comes (by decide +kernel))

def owing : Ledger := { sent := 2, unacked := [(1, greeting), (2, status)] }

def replied : Session :=
  (manage Ledger.requestFrame owing
    (answeredBoth.session.setConnection answeredBoth.session.connection.recv.2)).2

theorem takes_answer :
    .frame (Ledger.acknowledgement 1) owing ∈ Call.recv.takings answeredBoth.session := by
  have first : answeredBoth.session.recvTakings =
      .frame Ledger.requestFrame owing :: replied.recvTakings :=
    recvTakings_of_frame (by decide +kernel) (by decide +kernel) rfl (by decide +kernel)
  have second : replied.recvTakings = .frame (Ledger.acknowledgement 1) owing :: _ :=
    recvTakings_of_frame (by decide +kernel) (by decide +kernel) rfl (by decide +kernel)
  change _ ∈ answeredBoth.session.recvTakings
  rw [first, second]
  exact .tail _ (.head _)

theorem acknowledged_in_step_answeredBoth :
    opened.connection.Works ∧ opened.policy.requestEvery = some 1 ∧ opened.ledger = some {}
      ∧ (∀ stanza ∈ opened.connection.unread, stanza.kind ≠ .smAck)
      ∧ Run .onRequest Call.InStep { session := opened } answeredBoth
      ∧ .frame (Ledger.acknowledgement 1) owing ∈ Call.recv.takings answeredBoth.session
      ∧ (∃ l, answeredBoth.session.ledger = some l
          ∧ acknowledged answeredBoth.session.connection.unread <+: numbers l
          ∧ ∀ t ∈ Call.recv.takings answeredBoth.session, t.Releases answeredBoth.sent)
      ∧ answeredBoth.Tied ∧ ∃ n k, answeredBoth.Clears n k := by
  have works : opened.connection.Works := fun _ => rfl
  have unread : ∀ stanza ∈ opened.connection.unread, stanza.kind ≠ .smAck := by decide +kernel
  have run : Run .onRequest Call.InStep { session := opened } answeredBoth :=
    (run_sentBoth.trans run_heardBoth).trans run_answeredBoth
  exact ⟨works, rfl, rfl, unread, run, takes_answer,
    acknowledged_in_step works rfl rfl unread run⟩

end Dialogue
end XmppStream
