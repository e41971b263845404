import XmppStream.Proofs.Session.InStep

/-! What a session enters in its accounts against what it writes, over a transport that may refuse
any write. A stanza is entered if its own write succeeds, whatever becomes of the request for an
acknowledgement after it. -/

namespace XmppStream

def AckPolicy.Asks (p : AckPolicy) (number : UInt32) : Prop :=
  ∃ every, p.requestEvery = some every ∧ 0 < every ∧ every.toNat ∣ number.toNat

theorem AckPolicy.due_iff_asks {p : AckPolicy} {number : UInt32} :
    p.due number ↔ p.Asks number := by
  unfold due Asks
  cases p.requestEvery with
  | none => simp
  | some every =>
    have divides : number % every = 0 ↔ every.toNat ∣ number.toNat := by
      rw [← UInt32.toNat_inj, UInt32.toNat_mod, Nat.dvd_iff_mod_eq_zero]
      rfl
    have positive : every ≠ 0 ↔ 0 < every := UInt32.pos_iff_ne_zero.symm
    simp [divides, positive]

namespace Connection

def trouble? (c : Connection) : Option String := c.wire.trouble c.wire.writes

/-- A frame given to the transport, and the trouble, if any, that keeps it from being written. -/
structure Attempt where
  frame : Stanza
  trouble : Option String

def texts (c : Connection) (attempts : List Attempt) : List String :=
  (attempts.filter (·.trouble.isNone)).map fun a => c.written a.frame

def after (c : Connection) (attempts : List Attempt) : Connection :=
  { c with wire := { c.wire with
    writes := c.wire.writes + attempts.length
    sent := (c.texts attempts).reverse ++ c.wire.sent } }

/-- From `c` to `c'` the connection makes these attempts, and does nothing else. -/
structure Tries (c : Connection) (attempts : List Attempt) (c' : Connection) : Prop where
  troubles : attempts.map Attempt.trouble =
    (List.range' c.wire.writes attempts.length).map c.wire.trouble
  left : c' = c.after attempts

theorem texts_append (c : Connection) (attempts more : List Attempt) :
    c.texts (attempts ++ more) = c.texts attempts ++ c.texts more := by
  rw [texts, List.filter_append, List.map_append]
  rfl

theorem after_append (c : Connection) (attempts more : List Attempt) :
    c.after (attempts ++ more) = (c.after attempts).after more := by
  rw [after, texts_append, List.length_append, List.reverse_append, List.append_assoc,
    ← Nat.add_assoc]
  rfl

theorem Tries.trouble? {c c' : Connection} {a : Attempt} {more : List Attempt}
    (h : Tries c (a :: more) c') : c.trouble? = a.trouble :=
  (List.cons.inj h.troubles).1.symm

theorem Tries.trans {c c' c'' : Connection} {attempts more : List Attempt}
    (h : Tries c attempts c') (h' : Tries c' more c'') : Tries c (attempts ++ more) c'' := by
  obtain ⟨troubles, rfl⟩ := h
  obtain ⟨troubles', rfl⟩ := h'
  refine ⟨?_, (after_append c attempts more).symm⟩
  rw [List.map_append, troubles, troubles', List.length_append, ← List.range'_append_1,
    List.map_append]
  rfl

theorem tries_send (frame : Stanza) (c : Connection) :
    Tries c [⟨frame, c.trouble?⟩] (send frame c).2 := by
  refine ⟨rfl, ?_⟩
  unfold send write Wire.write trouble?
  cases c.wire.trouble c.wire.writes <;> rfl

end Connection

namespace Session
open Connection (Attempt)

def outcome : Option String → Awaited Fault Unit
  | none => .ready ()
  | some detail => .failed (.connection (.io detail))

def entered (s : Session) (l : Ledger) (q : UInt32) (x : Stanza) : Session :=
  { s with ledger := some { l with sent := q, unacked := l.unacked ++ [(q, x)] } }

/-- Sending `x` with the accounts `l`, where `q` is the next number: what it gives, and the session
that it leaves. -/
inductive Posts (s : Session) (l : Ledger) (q : UInt32) (x : Stanza) :
    Awaited Fault Unit → Session → Prop where
  | unwritten {detail : String} {c : Connection} :
      s.connection.Tries [⟨x, some detail⟩] c →
      Posts s l q x (.failed (.connection (.io detail))) (s.setConnection c)
  | frame {c : Connection} : x.isManagement →
      s.connection.Tries [⟨x, none⟩] c →
      Posts s l q x (.ready ()) (s.setConnection c)
  | entered {c : Connection} : ¬ x.isManagement → ¬ s.policy.Asks q →
      s.connection.Tries [⟨x, none⟩] c →
      Posts s l q x (.ready ()) ((s.entered l q x).setConnection c)
  | asked {trouble : Option String} {c : Connection} : ¬ x.isManagement → s.policy.Asks q →
      s.connection.Tries [⟨x, none⟩, ⟨Ledger.requestFrame, trouble⟩] c →
      Posts s l q x (outcome trouble) ((s.entered l q x).setConnection c)

def Lands (s : Session) (x : Stanza) : Prop :=
  ¬ x.isManagement ∧ s.connection.trouble? = none

instance (s : Session) (x : Stanza) : Decidable (s.Lands x) := instDecidableAnd

/-- Those among stanzas sent one after the other that are to be counted and whose own write
succeeds. -/
def landed (s : Session) : List Stanza → List Stanza
  | [] => []
  | x :: ss => (if s.Lands x then [x] else []) ++ landed (send x s).2 ss

variable {s : Session} {l : Ledger}

theorem connected_send (frame : Stanza) (s : Session) : connected (Connection.send frame) s =
    (outcome s.connection.trouble?, s.setConnection (Connection.send frame s.connection).2) := by
  unfold connected Act.on Act.mapFault Connection.send Connection.write Wire.write Connection.trouble?
  dsimp only
  cases s.connection.wire.trouble s.connection.wire.writes <;> rfl

theorem send_of_trouble {detail : String} (trouble : s.connection.trouble? = some detail)
    (x : Stanza) : send x s =
      (outcome (some detail), s.setConnection (Connection.send x s.connection).2) := by
  rw [send, Act.bind_apply, Act.andThen, connected_send, trouble]
  rfl

theorem enter_of_on (on : s.ledger = some l) {x : Stanza} (counts : ¬ x.isManagement) :
    enter x s = (s.policy.due (l.sent + 1), s.entered l (l.sent + 1) x) := by
  rw [enter, on]
  exact if_neg counts

theorem enter_of_frame {x : Stanza} (frame : x.isManagement) : enter x s = (false, s) := by
  rw [enter]
  split
  · rfl
  · exact if_pos frame

theorem posts_send (on : s.ledger = some l) (x : Stanza) :
    Posts s l (l.sent + 1) x (send x s).1 (send x s).2 := by
  have own := Connection.tries_send x s.connection
  have first := connected_send x s
  cases trouble : s.connection.trouble? with
  | some detail =>
    rw [trouble] at own
    rw [send_of_trouble trouble]
    exact .unwritten own
  | none =>
    rw [trouble] at own first
    rw [send_of_ready first]
    by_cases frame : x.isManagement
    · rw [enter_of_frame frame]
      exact .frame frame own
    rw [enter_of_on on frame]
    by_cases asks : s.policy.Asks (l.sent + 1)
    · rw [AckPolicy.due_iff_asks.2 asks, if_pos rfl, connected_send]
      exact .asked frame asks (own.trans (Connection.tries_send Ledger.requestFrame _))
    · rw [if_neg fun due => asks (AckPolicy.due_iff_asks.1 due)]
      exact .entered frame asks own

theorem balanced_entered {out : List (UInt32 × Stanza)} {ss : List Stanza} {x : Stanza}
    (lands : s.Lands x) (balanced : l.Balanced out ss) (c : Connection) :
    ∃ l', ((s.entered l (l.sent + 1) x).setConnection c).ledger = some l'
      ∧ l'.Balanced out (ss ++ if s.Lands x then [x] else []) := by
  rw [if_pos lands]
  exact ⟨_, rfl, balanced.record x⟩

theorem Posts.balanced {q : UInt32} {x : Stanza} {result : Awaited Fault Unit} {s' : Session}
    (h : Posts s l q x result s') (on : s.ledger = some l) (next : q = l.sent + 1)
    {out : List (UInt32 × Stanza)} {ss : List Stanza} (balanced : l.Balanced out ss) :
    s'.policy = s.policy ∧ ∃ l', s'.ledger = some l'
      ∧ l'.Balanced out (ss ++ if s.Lands x then [x] else []) := by
  subst next
  cases h with
  | unwritten tries =>
    have trouble := tries.trouble?
    have lost : ¬ s.Lands x := fun lands => by
      rw [lands.2] at trouble
      cases trouble
    rw [if_neg lost, List.append_nil]
    exact ⟨rfl, l, on, balanced⟩
  | frame frame tries =>
    rw [if_neg fun lands => lands.1 frame, List.append_nil]
    exact ⟨rfl, l, on, balanced⟩
  | @entered c counts quiet tries =>
    exact ⟨rfl, balanced_entered ⟨counts, tries.trouble?⟩ balanced c⟩
  | @asked trouble c counts asks tries =>
    exact ⟨rfl, balanced_entered ⟨counts, tries.trouble?⟩ balanced c⟩

theorem balanced_sends (on : s.ledger = some l) {out : List (UInt32 × Stanza)} {past : List Stanza}
    (balanced : l.Balanced out past) (ss : List Stanza) :
    (s.performAll (ss.map .send)).policy = s.policy
      ∧ ∃ l', (s.performAll (ss.map .send)).ledger = some l'
        ∧ l'.Balanced out (past ++ s.landed ss) := by
  induction ss generalizing s l past with
  | nil =>
    rw [landed, List.append_nil]
    exact ⟨rfl, l, on, balanced⟩
  | cons x ss ih =>
    -- The first stanza is entered if it lands, and the others are sent with the accounts after it.
    obtain ⟨policy, l', on', balanced'⟩ := (posts_send on x).balanced on rfl balanced
    obtain ⟨policy', rest⟩ := ih on' balanced'
    rw [List.append_assoc] at rest
    exact ⟨policy'.trans policy, rest⟩

/-- Stream management is on, and its accounts may have been used in any way. However many stanzas
are then sent, over a transport that may refuse any write: those entered, in order and numbered from
one, are those that land. And so for the next stanza too, the number it gets is the next one. If its
own write fails, the caller is told and the accounts stay; a frame of stream management is written
and not entered; any other stanza is entered, and one request for an acknowledgement is tried right
after it exactly if the policy asks for one after this number. If the request fails, the caller is
told, and the stanza stays entered. -/
theorem accounts_match_wire {s : Session} {past : List Ledger.Operation}
    (on : s.ledger = some (Ledger.performAll {} past)) (ss : List Stanza) :
    let now := s.performAll (ss.map .send)
    let recorded := past.filterMap Ledger.Operation.sent? ++ s.landed ss
    now.policy = s.policy
      ∧ ∃ l, now.ledger = some l
        ∧ Ledger.releasedBy {} past ++ l.unacked = Ledger.numbered recorded
        ∧ l.sent = UInt32.ofNat recorded.length
        ∧ ∀ x, now.Posts l (UInt32.ofNat (recorded.length + 1)) x (send x now).1 (send x now).2 := by
  intro now recorded
  have start := Ledger.Balanced.fresh.performAll past
  rw [List.nil_append, List.nil_append] at start
  obtain ⟨policy, l, now_on, balanced⟩ := balanced_sends on start ss
  refine ⟨policy, l, now_on, balanced.entries, balanced.sent, fun x => ?_⟩
  have number : UInt32.ofNat (recorded.length + 1) = l.sent + 1 := by
    rw [balanced.sent, UInt32.ofNat_add]
    rfl
  rw [number]
  exact posts_send now_on x

def unsteady : Session :=
  { Dialogue.opened with
    connection := { Dialogue.opened.connection with
      wire := { trouble := fun k => if k = 1 ∨ k = 3 then some "broken pipe" else none } }
    policy := { requestEvery := some 2 } }

/-- The first presence is refused; the second is written, but the request after it is not. -/
theorem accounts_match_wire_unsteady :
    unsteady.ledger = some (Ledger.performAll {} [])
      ∧ let sends := [Dialogue.greeting, Dialogue.status, Dialogue.status, Ledger.requestFrame]
        let now := unsteady.performAll (sends.map .send)
        ∃ l, now.ledger = some l
          ∧ l.unacked = [(1, Dialogue.greeting), (2, Dialogue.status)]
          ∧ ∀ x, now.Posts l 3 x (send x now).1 (send x now).2 := by
  let sends := [Dialogue.greeting, Dialogue.status, Dialogue.status, Ledger.requestFrame]
  have landed : unsteady.landed sends = [Dialogue.greeting, Dialogue.status] := by decide +kernel
  have fresh : unsteady.ledger = some (Ledger.performAll {} []) := rfl
  obtain ⟨-, l, on, entries, -, next⟩ := accounts_match_wire fresh sends
  rw [landed] at entries next
  exact ⟨fresh, l, on, entries, next⟩

end Session
end XmppStream
