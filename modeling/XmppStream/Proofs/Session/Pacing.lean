import XmppStream.Proofs.Session.InStep

/-! An acknowledgement releases the oldest entry of the ledger, whatever it counts to. A stanza that
the peer has not counted can therefore leave, but only when none is left that the peer has counted.
This never happens if the application asks for acknowledgements only while fewer of them are still
to come than stanzas wait, whatever the policy asks for. -/

namespace XmppStream

namespace Ledger

def SparesLater (l : Ledger) (frame : Stanza) : Prop :=
  ∀ count, countOf? frame = some count →
    ∀ entry ∈ l.unacked, count < entry.1 → entry ∈ (l.handle frame).2.unacked

/-- An acknowledgement takes the oldest entry and no other, and an entry whose number is above its
count only if all are. -/
def TakesOldest (l : Ledger) (frame : Stanza) : Prop :=
  ∀ count, countOf? frame = some count → (l.handle frame).2.unacked = l.unacked.tail
    ∧ ((∃ entry ∈ l.unacked, entry.1 ≤ count) → l.SparesLater frame)

variable {l : Ledger} {out : List (UInt32 × Stanza)} {ss : List Stanza} {frame : Stanza}

theorem unacked_handle {count : UInt32} (ack : frame.kind = .smAck)
    (counts : countOf? frame = some count) : (l.handle frame).2.unacked = l.unacked.tail := by
  rw [handle_of_counts ack counts]
  rfl

theorem Balanced.number (h : Balanced l out ss) (few : ss.length < UInt32.size)
    {entry : UInt32 × Stanza} (mem : entry ∈ l.unacked) :
    out.length + 1 ≤ entry.1.toNat := by
  obtain ⟨i, here, rfl⟩ := List.mem_iff_getElem.1 mem
  have place : (numbered ss)[out.length + i]? = some l.unacked[i] := by
    rw [← h.entries, List.getElem?_append_right (Nat.le_add_right _ _), Nat.add_sub_cancel_left,
      List.getElem?_eq_getElem here]
  rw [numbered, List.getElem?_mapIdx, Option.map_eq_some_iff] at place
  obtain ⟨s, -, entry⟩ := place
  have length := h.length
  have number : l.unacked[i].1.toNat = out.length + i + 1 := by
    rw [← entry]
    exact UInt32.toNat_ofNat_of_lt' (by omega)
  omega

theorem Balanced.sparesLater (h : Balanced l out ss) (few : ss.length < UInt32.size)
    (ack : frame.kind = .smAck)
    (counted : ∀ count, countOf? frame = some count → out.length < count.toNat) :
    l.SparesLater frame := by
  intro count counts entry mem later
  rw [unacked_handle ack counts]
  cases waiting : l.unacked with
  | nil =>
    rw [waiting] at mem
    cases mem
  | cons oldest rest =>
    rw [waiting] at mem
    refine (List.mem_cons.1 mem).resolve_left ?_
    rintro rfl
    obtain ⟨s, -, number, -⟩ := h.next waiting
    have bound := h.length
    rw [waiting, List.length_cons] at bound
    have value : entry.1.toNat = out.length + 1 := by
      rw [number]
      exact UInt32.toNat_ofNat_of_lt' (by omega)
    have above := UInt32.lt_iff_toNat_lt.1 later
    have below := counted count counts
    omega

theorem Balanced.released (h : Balanced l out ss) (left : out.length < ss.length)
    (ack : frame.kind = .smAck) {count : UInt32} (counts : countOf? frame = some count) :
    ∃ entry, (Operation.handle frame).released? l = some entry := by
  have length := h.length
  rw [released?_handle, if_pos ack, counts]
  cases waiting : l.unacked with
  | nil =>
    rw [waiting, List.length_nil] at length
    omega
  | cons entry rest => exact ⟨entry, congrArg List.head? waiting⟩

theorem Balanced.takesOldest (h : Balanced l out ss) (few : ss.length < UInt32.size)
    (ack : frame.kind = .smAck) : l.TakesOldest frame := by
  intro count counts
  refine ⟨unacked_handle ack counts, ?_⟩
  rintro ⟨entry, mem, below⟩
  apply h.sparesLater few ack
  intro count' counts'
  cases counts.symm.trans counts'
  exact Nat.lt_of_lt_of_le (h.number few mem) (UInt32.le_iff_toNat_le.1 below)

end Ledger

def Session.Taking.SparesLater : Session.Taking → Prop
  | .frame s l => s.kind = .smAck → l.SparesLater s
  | _ => True

def Session.Taking.TakesOldest : Session.Taking → Prop
  | .frame s l => s.kind = .smAck → l.TakesOldest s
  | _ => True

def Session.Call.Asks : Session.Call → Prop
  | .requestAck => True
  | .send stanza => stanza.kind = .smRequest
  | _ => False

namespace Dialogue
open Session

/-- Receiving releases the oldest entries of the ledger, one for each acknowledgement with a count
that it takes in, and no other. -/
def ReleasesOldest (d : Dialogue) : Prop :=
  ∃ l l', d.session.ledger = some l ∧ (Session.recv d.session).2.ledger = some l'
    ∧ l'.unacked = l.unacked.drop (d.taken.countP Option.isSome)

/-- Receiving leaves in the ledger every entry whose number is above all counts that it takes in. -/
def KeepsUncounted (d : Dialogue) : Prop :=
  ∃ l l', d.session.ledger = some l ∧ (Session.recv d.session).2.ledger = some l'
    ∧ ∀ entry ∈ l.unacked, (∀ count, some count ∈ d.taken → count < entry.1) → entry ∈ l'.unacked

/-- An acknowledgement with a count is taken in as a frame of the ledger. Any other stanza leaves
the entries as they are. -/
theorem unacked_of_changes {t : Taking} {l : Ledger} {off : Option Ledger}
    (change : t.Changes (some l) off) :
    ∃ l', off = some l'
      ∧ ((∃ s count, t = .frame s l ∧ s.kind = .smAck ∧ Ledger.countOf? s = some count
            ∧ acknowledged [t.stanza] = [some count] ∧ l' = (l.handle s).2)
        ∨ (acknowledged [t.stanza]).countP Option.isSome = 0 ∧ l'.unacked = l.unacked) := by
  cases change with
  | @frame s _ management =>
    refine ⟨_, rfl, ?_⟩
    by_cases ack : s.kind = .smAck
    · have taken : acknowledged [s] = [Ledger.countOf? s] := acknowledged_cons_of_ack ack []
      change (∃ _ _, _ ∧ _ ∧ _ ∧ acknowledged [s] = _ ∧ _) ∨ (acknowledged [s]).countP _ = 0 ∧ _
      cases counts : Ledger.countOf? s with
      | none =>
        refine .inr ⟨?_, by rw [Ledger.handle_of_uncounted counts]⟩
        rw [taken, counts]
        rfl
      | some count => exact .inl ⟨s, count, rfl, ack, counts, taken.trans (by rw [counts]), rfl⟩
    · refine .inr ⟨?_, by rw [Ledger.handle_eq_self (.inr ack)]⟩
      exact congrArg _ (acknowledged_cons_of_ne ack [])
  | @counted s _ other =>
    refine ⟨_, rfl, .inr ⟨congrArg _ (acknowledged_cons_of_ne (s := s) ?_ []), rfl⟩⟩
    exact fun ack => other (Stanza.isManagement_of_kind (.inr ack))

theorem drop_of_accounts {on off : Option Ledger} {ts : List Taking} (h : Accounts on ts off)
    {l : Ledger} (ledger : on = some l) :
    ∃ l', off = some l' ∧ l'.unacked =
      l.unacked.drop ((acknowledged (ts.map Taking.stanza)).countP Option.isSome) := by
  induction h generalizing l with
  | nil => exact ⟨l, ledger, rfl⟩
  | cons change _ ih =>
    subst ledger
    obtain ⟨between, on', first⟩ := unacked_of_changes change
    obtain ⟨l', off, left⟩ := ih on'
    refine ⟨l', off, ?_⟩
    rw [left, List.map_cons, ← List.singleton_append, acknowledged_append, List.countP_append,
      ← List.drop_drop]
    rcases first with ⟨s, count, rfl, ack, counts, taken, rfl⟩ | ⟨nothing, same⟩
    · rw [Ledger.unacked_handle ack counts, taken, List.countP_singleton,
        if_pos Option.isSome_some, List.drop_one]
    · rw [nothing, same, List.drop_zero]

/-- If each acknowledgement spares the entries that it does not count, all together spare those that
none of them counts. -/
theorem kept_of_accounts {on off : Option Ledger} {ts : List Taking} (h : Accounts on ts off)
    (spares : ∀ t ∈ ts, t.SparesLater) {l : Ledger} (ledger : on = some l) :
    ∃ l', off = some l' ∧ ∀ entry ∈ l.unacked,
      (∀ count, some count ∈ acknowledged (ts.map Taking.stanza) → count < entry.1) →
        entry ∈ l'.unacked := by
  induction h generalizing l with
  | nil => exact ⟨l, ledger, fun _ mem _ => mem⟩
  | cons change _ ih =>
    subst ledger
    obtain ⟨spared, later⟩ := List.forall_mem_cons.1 spares
    obtain ⟨between, on', first⟩ := unacked_of_changes change
    obtain ⟨l', off, kept⟩ := ih later on'
    refine ⟨l', off, fun entry mem above => ?_⟩
    rw [List.map_cons, ← List.singleton_append, acknowledged_append] at above
    refine kept entry ?_ fun count taken => above count (List.mem_append_right _ taken)
    rcases first with ⟨s, count, rfl, ack, counts, taken, rfl⟩ | ⟨-, same⟩
    · refine spared ack count counts entry mem (above count (List.mem_append_left _ ?_))
      rw [taken]
      exact .head _
    · rwa [same]

def waiting (d : Dialogue) : Nat :=
  match d.session.ledger with
  | some l => l.unacked.length
  | none => 0

/-- The application may ask for an acknowledgement itself only while fewer are to come than stanzas
wait. Its other calls are free. -/
def Paced (d : Dialogue) (call : Call) : Prop :=
  call.arrival? = none ∧ (call.Asks → d.pending.length < d.waiting)

def PacedRun (counting : Counting) : Dialogue → Dialogue → Prop :=
  Relation.ReflTransGen fun d d' => Step counting d.Paced d d'

theorem Step.mono {counting : Counting} {may may' : Call → Prop} {d d' : Dialogue}
    (h : Step counting may d d') (more : ∀ call, may call → may' call) :
    Step counting may' d d' := by
  cases h with
  | call allowed => exact .call (more _ allowed)
  | hear next => exact .hear next
  | answer next allowed ack counts => exact .answer next allowed ack counts
  | tell other => exact .tell other
  | arrive next found => exact .arrive next found

theorem Step.sent_le {counting : Counting} {may : Call → Prop} {d d' : Dialogue}
    (h : Step counting may d d') : d.sent.length ≤ d'.sent.length := by
  cases h with
  | call => exact (List.prefix_append _ _).length_le
  | _ => exact Nat.le_refl _

theorem PacedRun.run {counting : Counting} {d d' : Dialogue} (h : PacedRun counting d d') :
    Run counting (·.arrival? = none) d d' := by
  induction h with
  | refl => exact .refl
  | tail _ step ih => exact ih.tail (step.mono fun _ paced => paced.1)

/-- Of counts to come, the first counts more than `n` stanzas, and each later one at least one more
than the place before it asks for. -/
def Covers (n : Nat) : List Nat → Prop
  | [] => True
  | count :: counts => n < count ∧ Covers (n + 1) counts

theorem covers_append (n : Nat) (counts later : List Nat) :
    Covers n (counts ++ later) ↔ Covers n counts ∧ Covers (n + counts.length) later := by
  induction counts generalizing n with
  | nil => simp [Covers]
  | cons first counts ih =>
    rw [List.cons_append, Covers, Covers, ih, List.length_cons, and_assoc]
    have shift : n + 1 + counts.length = n + (counts.length + 1) := by omega
    rw [shift]

/-- Of `sent` stanzas `released` have left the ledger, and each acknowledgement to come counts at
least the stanza that it will release. -/
def Covered (released sent : Nat) (counts : List (Option UInt32)) : Prop :=
  ∃ ns : List Nat, counts = ns.map (fun n => some (UInt32.ofNat n)) ∧ Covers released ns
    ∧ ∀ n ∈ ns, n ≤ sent

namespace Covered

variable {released sent : Nat} {counts : List (Option UInt32)}

theorem nil (released sent : Nat) : Covered released sent [] :=
  ⟨[], rfl, trivial, fun _ mem => by cases mem⟩

theorem mono {sent' : Nat} (h : Covered released sent counts) (more : sent ≤ sent') :
    Covered released sent' counts := by
  obtain ⟨ns, rfl, covers, bound⟩ := h
  exact ⟨ns, rfl, covers, fun n mem => Nat.le_trans (bound n mem) more⟩

theorem next {count : Option UInt32} (h : Covered released sent (count :: counts)) :
    ∃ n, count = some (UInt32.ofNat n) ∧ released < n ∧ n ≤ sent
      ∧ Covered (released + 1) sent counts := by
  obtain ⟨ns, same, covers, bound⟩ := h
  cases ns with
  | nil => cases same
  | cons n ns =>
    obtain ⟨rfl, rfl⟩ := List.cons.inj same
    obtain ⟨here, later⟩ := List.forall_mem_cons.1 bound
    exact ⟨n, rfl, covers.1, here, ns, rfl, covers.2, later⟩

theorem length_le (h : Covered released sent counts) (left : released ≤ sent) :
    released + counts.length ≤ sent := by
  induction counts generalizing released with
  | nil => exact left
  | cons count counts ih =>
    obtain ⟨n, -, first, bound, rest⟩ := h.next
    have length := ih rest (Nat.lt_of_lt_of_le first bound)
    rw [List.length_cons]
    omega

theorem ask (h : Covered released sent counts) (room : released + counts.length < sent) :
    Covered released sent (counts ++ [some (UInt32.ofNat sent)]) := by
  obtain ⟨ns, rfl, covers, bound⟩ := h
  rw [List.length_map] at room
  refine ⟨ns ++ [sent], by rw [List.map_append]; rfl,
    (covers_append _ _ _).2 ⟨covers, room, trivial⟩, ?_⟩
  intro n mem
  rcases List.mem_append.1 mem with old | new
  · exact bound n old
  · exact Nat.le_of_eq (List.mem_singleton.1 new)

theorem grow {before after : List (Option UInt32)} {n m : Nat}
    (h : Covered released sent (before ++ some (UInt32.ofNat n) :: after)) (le : n ≤ m)
    (bounded : m ≤ sent) (few : sent < UInt32.size) :
    Covered released sent (before ++ some (UInt32.ofNat m) :: after) := by
  obtain ⟨ns, same, covers, bound⟩ := h
  obtain ⟨ns₁, rest, rfl, rfl, split⟩ := List.append_eq_map_iff.1 same
  obtain ⟨k, ns₂, rfl, place, rfl⟩ := List.map_eq_cons_iff.1 split
  have small : k ≤ sent := bound k (List.mem_append_right _ (.head _))
  have value : k = n := by
    have numbers := congrArg UInt32.toNat (Option.some.inj place)
    rwa [UInt32.toNat_ofNat_of_lt' (by omega), UInt32.toNat_ofNat_of_lt' (by omega)] at numbers
  obtain ⟨first, here, later⟩ := (covers_append _ _ _).1 covers
  refine ⟨ns₁ ++ m :: ns₂, by rw [List.map_append, List.map_cons],
    (covers_append _ _ _).2 ⟨first, by omega, later⟩, ?_⟩
  intro count mem
  rcases List.mem_append.1 mem with old | mem
  · exact bound count (List.mem_append_left _ old)
  rcases List.mem_cons.1 mem with rfl | old
  · exact bounded
  · exact bound count (List.mem_append_right _ (.tail _ old))

end Covered

/-- The takings release what comes after `out` up to `out'`, of the stanzas `ss`. -/
structure Settles (ss : List Stanza) (ts : List Taking) (out out' : List (UInt32 × Stanza)) :
    Prop where
  oldest : ss.length < UInt32.size → ∀ t ∈ ts, t.TakesOldest
  covered : ∀ later, Covered out.length ss.length (acknowledged (ts.map Taking.stanza) ++ later) →
    Covered out'.length ss.length later ∧ (ss.length < UInt32.size → ∀ t ∈ ts, t.SparesLater)

namespace Settles

variable {ss : List Stanza} {out out' out'' : List (UInt32 × Stanza)}

theorem nil (ss : List Stanza) (out : List (UInt32 × Stanza)) : Settles ss [] out out :=
  ⟨fun _ _ mem => (by cases mem), fun _ h => ⟨h, fun _ _ mem => (by cases mem)⟩⟩

theorem cons {t : Taking} {ts : List Taking} (first : Settles ss [t] out out')
    (rest : Settles ss ts out' out'') : Settles ss (t :: ts) out out'' := by
  constructor
  · intro few
    exact List.forall_mem_cons.2 ⟨first.oldest few t (.head _), rest.oldest few⟩
  · intro later covered
    rw [List.map_cons, ← List.singleton_append, acknowledged_append, List.append_assoc] at covered
    obtain ⟨between, spared⟩ := first.covered _ covered
    obtain ⟨after, spares⟩ := rest.covered later between
    exact ⟨after, fun few => List.forall_mem_cons.2 ⟨spared few t (.head _), spares few⟩⟩

theorem other {t : Taking} (h : t.stanza.kind ≠ .smAck) : Settles ss [t] out out := by
  have trivially : ∀ u ∈ [t], u.TakesOldest ∧ u.SparesLater := by
    intro u mem
    rw [List.mem_singleton.1 mem]
    cases t with
    | frame s l => exact ⟨fun ack => absurd ack h, fun ack => absurd ack h⟩
    | _ => exact ⟨trivial, trivial⟩
  refine ⟨fun _ u mem => (trivially u mem).1, fun later covered => ⟨?_, fun _ u mem =>
    (trivially u mem).2⟩⟩
  rwa [List.map_singleton, acknowledged_cons_of_ne h] at covered

theorem ack {l : Ledger} {frame : Stanza} (balanced : l.Balanced out ss) (h : frame.kind = .smAck) :
    Settles ss [.frame frame l] out
      (out ++ ((Ledger.Operation.handle frame).released? l).toList) := by
  constructor
  · intro few u mem
    rw [List.mem_singleton.1 mem]
    exact fun _ => balanced.takesOldest few h
  · intro later covered
    change Covered _ _ (acknowledged [frame] ++ later) at covered
    rw [acknowledged_cons_of_ack h] at covered
    obtain ⟨n, counts, first, bound, rest⟩ := covered.next
    obtain ⟨entry, released⟩ := balanced.released (by omega) h counts
    rw [released, Option.toList_some, List.length_append]
    refine ⟨rest, fun few u mem => ?_⟩
    rw [List.mem_singleton.1 mem]
    intro _
    apply balanced.sparesLater few h
    intro count counts'
    cases counts.symm.trans counts'
    rwa [UInt32.toNat_ofNat_of_lt' (by omega)]

end Settles

theorem settles_of_changes {t : Taking} {l : Ledger} {off : Option Ledger}
    {out : List (UInt32 × Stanza)} {ss : List Stanza} (change : t.Changes (some l) off)
    (balanced : l.Balanced out ss) :
    ∃ l' out', off = some l' ∧ l'.Balanced out' ss ∧ Settles ss [t] out out' := by
  cases change with
  | @frame s _ management =>
    refine ⟨_, _, rfl, balanced.handle s, ?_⟩
    by_cases ack : s.kind = .smAck
    · exact .ack balanced ack
    · rw [Ledger.released?_handle, if_neg ack, Option.toList_none, List.append_nil]
      exact .other ack
  | @counted s _ other =>
    exact ⟨_, out, rfl, balanced.countReceived,
      .other fun ack => other (Stanza.isManagement_of_kind (.inr ack))⟩

theorem settles_of_accounts {on off : Option Ledger} {ts : List Taking} (h : Accounts on ts off)
    {l : Ledger} (ledger : on = some l) {out : List (UInt32 × Stanza)} {ss : List Stanza}
    (balanced : l.Balanced out ss) :
    ∃ l' out', off = some l' ∧ l'.Balanced out' ss ∧ Settles ss ts out out' := by
  induction h generalizing l out with
  | nil => exact ⟨l, out, ledger, balanced, .nil ss out⟩
  | cons change _ ih =>
    subst ledger
    obtain ⟨l', out', on', balanced', first⟩ := settles_of_changes change balanced
    obtain ⟨l'', out'', off', balanced'', rest⟩ := ih on' balanced'
    exact ⟨l'', out'', off', balanced'', first.cons rest⟩

structure Accounted (d : Dialogue) (l : Ledger) (out : List (UInt32 × Stanza)) : Prop where
  works : d.session.connection.Works
  ledger : d.session.ledger = some l
  balanced : l.Balanced out d.sent
  counted : d.counted + Stanza.countedIn d.toPeer = d.sent.length

/-- After the entries `out` were released, each acknowledgement to come counts at least the stanza
that it will release. -/
def InPace (d : Dialogue) (out : List (UInt32 × Stanza)) : Prop :=
  Covered out.length d.sent.length d.pending

namespace Accounted

variable {d : Dialogue} {l : Ledger} {out : List (UInt32 × Stanza)}

theorem pending_of_gives (h : Accounted d l out) (call : Call)
    (gives : d.session.connection.Gives [] (call.perform d.session).connection) :
    (d.call call).pending = d.pending
      ++ (owedFor d.sent.length (call.frames d.session)).map fun n => some (UInt32.ofNat n) := by
  obtain ⟨rest, before, after⟩ := pending_call gives
  have same : d.pending = rest := before
  rw [after, h.counted, same]

theorem covered_ask (h : Accounted d l out) (room : d.pending.length < l.unacked.length)
    (pace : d.InPace out) :
    Covered out.length d.sent.length
      (d.pending ++ [d.sent.length].map fun n => some (UInt32.ofNat n)) := by
  have length := h.balanced.length
  exact pace.ask (by omega)

theorem call_management (h : Accounted d l out) {stanza : Stanza}
    (management : stanza.isManagement) :
    Accounted (d.call (.send stanza)) l out
      ∧ ((stanza.kind = .smRequest → d.pending.length < l.unacked.length) → d.InPace out →
        (d.call (.send stanza)).InPace out) := by
  have entered : enter stanza d.session = (false, d.session) := by
    rw [enter, h.ledger]
    exact if_pos management
  have frames : (Call.send stanza).frames d.session = [stanza] := by
    rw [Call.frames, entered]
    rfl
  have unsent : (Call.send stanza).counted? = none := if_pos management
  have same : (d.call (.send stanza)).sent = d.sent := by
    rw [Dialogue.call, unsent]
    exact List.append_nil _
  obtain ⟨c, sent, -⟩ := send_of_works h.works stanza
  rw [entered] at sent
  have performed : (Call.send stanza).perform d.session = d.session.setConnection c :=
    congrArg Prod.snd sent
  constructor
  · refine ⟨(sends_perform (.send stanza) h.works).works, ?_, ?_, ?_⟩
    · rw [Dialogue.call, performed]
      exact h.ledger
    · rw [same]
      exact h.balanced
    · have uncounted : Stanza.countedIn [stanza] = 0 := by simp [Stanza.countedIn, management]
      rw [same, Dialogue.call, frames]
      dsimp only
      rw [Stanza.countedIn_append, uncounted]
      exact h.counted
  · intro room pace
    have pending := h.pending_of_gives (.send stanza) (keeps_send stanza d.session).gives
    rw [InPace, same, pending, frames]
    by_cases request : stanza.kind = .smRequest
    · have owed : owedFor d.sent.length [stanza] = [d.sent.length] := by
        rw [owedFor, if_pos request]
        rfl
      rw [owed]
      exact h.covered_ask (room request) pace
    · have owed : owedFor d.sent.length [stanza] = [] :=
        owedFor_eq_nil _ fun s mem => by rwa [List.mem_singleton.1 mem]
      rw [owed, List.map_nil, List.append_nil]
      exact pace

theorem call_counted (h : Accounted d l out) {stanza : Stanza} (counts : ¬ stanza.isManagement) :
    Accounted (d.call (.send stanza)) (l.record stanza) out
      ∧ (d.InPace out → (d.call (.send stanza)).InPace out) := by
  have other : stanza.kind ≠ .smRequest := fun request =>
    counts (Stanza.isManagement_of_kind (.inl request))
  have entered : enter stanza d.session = (d.session.policy.due (l.record stanza).sent,
      { d.session with ledger := some (l.record stanza) }) := by
    rw [enter, h.ledger]
    exact if_neg counts
  have frames : (Call.send stanza).frames d.session = [stanza]
      ∨ (Call.send stanza).frames d.session = [stanza, Ledger.requestFrame] := by
    rw [Call.frames, entered]
    cases d.session.policy.due (l.record stanza).sent with
    | false => exact .inl rfl
    | true => exact .inr rfl
  have counted : (Call.send stanza).counted? = some stanza := if_neg counts
  have grown : (d.call (.send stanza)).sent = d.sent ++ [stanza] := by
    rw [Dialogue.call, counted]
    rfl
  obtain ⟨c, sent, -⟩ := send_of_works h.works stanza
  rw [entered] at sent
  have performed : (Call.send stanza).perform d.session =
      { d.session with connection := c, ledger := some (l.record stanza) } := congrArg Prod.snd sent
  constructor
  · refine ⟨(sends_perform (.send stanza) h.works).works, ?_, ?_, ?_⟩
    · rw [Dialogue.call, performed]
    · rw [grown]
      exact h.balanced.record stanza
    · have one : Stanza.countedIn [stanza] = 1 := by simp [Stanza.countedIn, counts]
      rw [grown, List.length_append, ← h.counted, Dialogue.call]
      dsimp only
      rw [Stanza.countedIn_append]
      rcases frames with frames | frames
      · rw [frames, one, Nat.add_assoc]
        rfl
      · rw [frames, countedIn_requested counts, Nat.add_assoc]
        rfl
  · intro pace
    have pending := h.pending_of_gives (.send stanza) (keeps_send stanza d.session).gives
    have more := pace.mono (Nat.le_add_right d.sent.length 1)
    rw [InPace, grown, List.length_append, pending]
    -- A request may follow, for which the new entry makes room.
    rcases frames with frames | frames
    · have owed : owedFor d.sent.length [stanza] = [] :=
        owedFor_eq_nil _ fun s mem => by rwa [List.mem_singleton.1 mem]
      rw [frames, owed, List.map_nil, List.append_nil]
      exact more
    · have left := h.balanced.length
      have room := pace.length_le (by omega)
      rw [frames, owedFor_requested _ counts]
      exact more.ask (by omega)

theorem call_requestAck (h : Accounted d l out) :
    Accounted (d.call .requestAck) l out
      ∧ (d.pending.length < l.unacked.length → d.InPace out →
        (d.call .requestAck).InPace out) := by
  have same : (d.call .requestAck).sent = d.sent := List.append_nil _
  have frames : Call.requestAck.frames d.session = [Ledger.requestFrame] := by
    rw [Call.frames, h.ledger]
    rfl
  obtain ⟨c, requested, -⟩ := requestAck_of_works h.works
  have performed : Call.requestAck.perform d.session = d.session.setConnection c := requested
  constructor
  · refine ⟨(sends_perform .requestAck h.works).works, ?_, ?_, ?_⟩
    · rw [Dialogue.call, performed]
      exact h.ledger
    · rw [same]
      exact h.balanced
    · rw [same, Dialogue.call, frames]
      dsimp only
      rw [Stanza.countedIn_append]
      exact h.counted
  · intro room pace
    have pending := h.pending_of_gives .requestAck (keeps_requestAck d.session).gives
    rw [InPace, same, pending, frames]
    exact h.covered_ask room pace

theorem call_recv (h : Accounted d l out) :
    ∃ l' out', Accounted (d.call .recv) l' out'
      ∧ (d.InPace out → (d.call .recv).InPace out') := by
  have same : (d.call .recv).sent = d.sent := List.append_nil _
  obtain ⟨l', out', ledger, balanced, settles⟩ :=
    settles_of_accounts (accounts_recv d.session).1 h.ledger h.balanced
  refine ⟨l', out', ⟨(sends_perform .recv h.works).works, ledger, ?_, ?_⟩, fun pace => ?_⟩
  · rw [same]
    exact balanced
  · rw [same, Dialogue.call]
    dsimp only
    rw [Stanza.countedIn_append, countedIn_recv]
    exact h.counted
  · obtain ⟨rest, before, after⟩ := pending_call (delivers_recv d.session).gives
    rw [InPace, before] at pace
    rw [InPace, same, after, owedFor_recv, List.map_nil, List.append_nil]
    exact (settles.covered rest pace).1

theorem call (h : Accounted d l out) {call : Call} (made : call.arrival? = none) :
    ∃ l' out', Accounted (d.call call) l' out'
      ∧ ((call.Asks → d.pending.length < l.unacked.length) → d.InPace out →
        (d.call call).InPace out') := by
  cases call with
  | send stanza =>
    by_cases management : stanza.isManagement
    · exact ⟨l, out, h.call_management management⟩
    · obtain ⟨accounted, pace⟩ := h.call_counted management
      exact ⟨_, out, accounted, fun _ => pace⟩
  | recv =>
    obtain ⟨l', out', accounted, pace⟩ := h.call_recv
    exact ⟨l', out', accounted, fun _ => pace⟩
  | requestAck =>
    obtain ⟨accounted, pace⟩ := h.call_requestAck
    exact ⟨l, out, accounted, fun room => pace (room trivial)⟩
  | enable resume =>
    rw [call_enable_of_on h.ledger]
    exact ⟨l, out, h, fun _ pace => pace⟩
  | arrive arrival => cases made

theorem step {counting : Counting} {may : Call → Prop} {d' : Dialogue} (h : Accounted d l out)
    (step : Step counting may d d') (made : ∀ call, may call → call.arrival? = none) :
    ∃ l' out', Accounted d' l' out'
      ∧ ((∀ call, may call → call.Asks → d.pending.length < l.unacked.length) →
        d.sent.length < UInt32.size → d.InPace out → d'.InPace out') := by
  cases step with
  | @call call allowed =>
    obtain ⟨l', out', accounted, pace⟩ := h.call (made call allowed)
    exact ⟨l', out', accounted, fun room _ => pace (room call allowed)⟩
  | @hear stanza later next =>
    have counted := h.counted
    rw [next, Stanza.countedIn_cons] at counted
    refine ⟨l, out, ⟨h.works, h.ledger, h.balanced, counted⟩, fun _ _ pace => ?_⟩
    rw [InPace, pending_hear next]
    exact pace
  | answer next allowed ack counts =>
    refine ⟨l, out, ⟨h.works, h.ledger, h.balanced, h.counted⟩, fun _ few pace => ?_⟩
    obtain ⟨before, after, pending, pending'⟩ := pending_answer next ack counts
    rw [InPace, pending] at pace
    rw [InPace, pending']
    cases counting with
    | onRequest =>
      cases allowed
      exact pace
    | untilAnswer =>
      have received := h.counted
      exact pace.grow allowed.1 (Nat.le_trans allowed.2 (by omega)) few
  | tell other =>
    refine ⟨l, out, ⟨h.works, h.ledger, h.balanced, h.counted⟩, fun _ _ pace => ?_⟩
    rw [InPace, pending_tell other]
    exact pace
  | arrive next found =>
    refine ⟨l, out, ⟨h.works, h.ledger, h.balanced, h.counted⟩, fun _ _ pace => ?_⟩
    rw [InPace, pending_arrive next found]
    exact pace

theorem run {counting : Counting} {d' : Dialogue} (h : Accounted d l out)
    (run : Run counting (·.arrival? = none) d d') : ∃ l' out', Accounted d' l' out' := by
  induction run with
  | refl => exact ⟨l, out, h⟩
  | tail _ next ih =>
    obtain ⟨l', out', accounted⟩ := ih
    obtain ⟨l'', out'', after, -⟩ := accounted.step next fun _ made => made
    exact ⟨l'', out'', after⟩

theorem pacedRun {counting : Counting} {d' : Dialogue} (h : Accounted d l out)
    (pace : d.InPace out) (run : PacedRun counting d d') (few : d'.sent.length < UInt32.size) :
    ∃ l' out', Accounted d' l' out' ∧ d'.InPace out' := by
  induction run with
  | refl => exact ⟨l, out, h, pace⟩
  | tail _ next ih =>
    -- Stanzas are only ever added, so the bound at the end holds here.
    have fewer := Nat.lt_of_le_of_lt next.sent_le few
    obtain ⟨l', out', accounted, pace'⟩ := ih fewer
    obtain ⟨l'', out'', after, kept⟩ := accounted.step next fun _ paced => paced.1
    refine ⟨l'', out'', after, kept (fun call paced asks => ?_) fewer pace'⟩
    have room := paced.2 asks
    unfold waiting at room
    rwa [accounted.ledger] at room

theorem takesOldest (h : Accounted d l out) (few : d.sent.length < UInt32.size) :
    ∀ t ∈ Call.recv.takings d.session, t.TakesOldest := by
  obtain ⟨l', out', -, -, settles⟩ :=
    settles_of_accounts (accounts_recv d.session).1 h.ledger h.balanced
  exact settles.oldest few

theorem sparesLater (h : Accounted d l out) (pace : d.InPace out)
    (few : d.sent.length < UInt32.size) :
    ∀ t ∈ Call.recv.takings d.session, t.SparesLater := by
  obtain ⟨l', out', -, -, settles⟩ :=
    settles_of_accounts (accounts_recv d.session).1 h.ledger h.balanced
  obtain ⟨rest, before, -⟩ := pending_call (delivers_recv d.session).gives
  rw [InPace, before] at pace
  exact (settles.covered rest pace).2 few

end Accounted

structure Begins (s : Session) : Prop where
  works : s.connection.Works
  on : s.ledger = some {}
  unread : ∀ stanza ∈ s.connection.unread, stanza.kind ≠ .smAck

theorem Begins.accounted {s : Session} (h : Begins s) : Accounted { session := s } {} [] :=
  ⟨h.works, h.on, .fresh, rfl⟩

theorem Begins.inPace {s : Session} (h : Begins s) : InPace { session := s } [] := by
  have nothing : ({ session := s } : Dialogue).pending = [] := by
    unfold pending
    rw [List.append_nil, acknowledged_eq_nil h.unread]
    rfl
  rw [InPace, nothing]
  exact .nil _ _

/-- Stream management has just been turned on, and fewer than `2 ^ 32` stanzas are sent; the policy
is any, and so is the order in which the application, the peer and the transport act. The peer
answers each request with what it had counted when the request came, or with any count from that up
to what it has counted when it answers. Each acknowledgement that the session deals with takes the
oldest entry of the ledger, and spares all entries that it does not count if one is left that it
counts; no other entry is gone once the session has received. If the application asks for
acknowledgements itself only while fewer are to come than stanzas wait, the entries that are not
counted are spared in any case, and still there once the session has received. -/
theorem sparesLater_of_pacedRun {counting : Counting} {s : Session} {d : Dialogue}
    (begins : Begins s) (run : Run counting (·.arrival? = none) { session := s } d)
    (few : d.sent.length < UInt32.size) :
    d.Tied ∧ (∀ t ∈ Call.recv.takings d.session, t.TakesOldest) ∧ d.ReleasesOldest
      ∧ (PacedRun counting { session := s } d →
        (∀ t ∈ Call.recv.takings d.session, t.SparesLater) ∧ d.KeepsUncounted) := by
  obtain ⟨l, out, accounted⟩ := begins.accounted.run run
  obtain ⟨accounts, -⟩ := accounts_recv d.session
  obtain ⟨l', off, left⟩ := drop_of_accounts accounts accounted.ledger
  refine ⟨tied accounted.works, accounted.takesOldest few, ⟨l, l', accounted.ledger, off, left⟩,
    fun paced => ?_⟩
  obtain ⟨paced_l, out', inPace, pace⟩ := begins.accounted.pacedRun begins.inPace paced few
  have spares := inPace.sparesLater pace few
  obtain ⟨l'', off', kept⟩ := kept_of_accounts accounts spares accounted.ledger
  exact ⟨spares, l, l'', accounted.ledger, off', kept⟩

def quiet : Session where
  connection := {
    wire := {}
    reader := { framing := .standalone, limit := 200 } }
  features := { name := "features", ns := Namespace.stream }
  policy := { requestEvery := none }
  ledger := some {}

theorem begins_quiet : Begins quiet := by
  refine ⟨fun _ => rfl, rfl, ?_⟩
  decide +kernel

def countBytes (count : String) : List Arrival :=
  [.bytes (Utf8.encode ("<a xmlns='urn:xmpp:sm:3' h='" ++ count ++ "'/>"))]

def askedInTime : Dialogue :=
  ((({ session := quiet } : Dialogue).call (.send greeting)).call .requestAck).hear greeting
    [Ledger.requestFrame]

def answeredInTime : Dialogue :=
  (((askedInTime.hear Ledger.requestFrame []).call (.send status)).tell
    (Ledger.acknowledgement 1) []).arrive (countBytes "1") []

theorem pacedRun_answeredInTime (counting : Counting) :
    PacedRun counting { session := quiet } answeredInTime := by
  have sends (d : Dialogue) {stanza : Stanza} (other : stanza.kind ≠ .smRequest) :
      d.Paced (.send stanza) := ⟨rfl, fun asks => absurd asks other⟩
  have room : (({ session := quiet } : Dialogue).call (.send greeting)).Paced .requestAck :=
    ⟨rfl, fun _ => by decide +kernel⟩
  have under_way : ((({ session := quiet } : Dialogue).call (.send greeting)).call
      .requestAck).toPeer = [greeting, Ledger.requestFrame] := by decide +kernel
  have owed : ((askedInTime.hear Ledger.requestFrame []).call (.send status)).owed = [1] := by
    decide +kernel
  have counted : 1 ≤ ((askedInTime.hear Ledger.requestFrame []).call (.send status)).counted := by
    decide +kernel
  have one : Ledger.countOf? (Ledger.acknowledgement 1) = some (UInt32.ofNat 1) := by decide +kernel
  have comes : (((askedInTime.hear Ledger.requestFrame []).call (.send status)).tell
      (Ledger.acknowledgement 1) []).toSession = [Ledger.acknowledgement 1] ++ [] := by
    decide +kernel
  have asked : PacedRun counting { session := quiet } askedInTime :=
    ((Relation.ReflTransGen.single (.call (sends _ (by decide)))).tail (.call room)).tail
      (.hear under_way)
  exact (((asked.tail (.hear rfl)).tail (.call (sends _ (by decide)))).tail
    (.answer owed (counting.allows_asked counted) (by decide) one)).tail
      (.arrive comes (by decide +kernel))

def waitingBoth : Ledger := { sent := 2, unacked := [(1, greeting), (2, status)] }

theorem takes_answeredInTime :
    .frame (Ledger.acknowledgement 1) waitingBoth ∈ Call.recv.takings answeredInTime.session := by
  have taken : answeredInTime.session.recvTakings =
      .frame (Ledger.acknowledgement 1) waitingBoth :: _ :=
    recvTakings_of_frame (by decide +kernel) (by decide +kernel) rfl (by decide +kernel)
  change _ ∈ answeredInTime.session.recvTakings
  rw [taken]
  exact .head _

theorem sparesLater_answeredInTime :
    Begins quiet ∧ Run .untilAnswer (·.arrival? = none) { session := quiet } answeredInTime
      ∧ answeredInTime.sent.length < UInt32.size
      ∧ PacedRun .untilAnswer { session := quiet } answeredInTime
      ∧ .frame (Ledger.acknowledgement 1) waitingBoth ∈ Call.recv.takings answeredInTime.session
      ∧ answeredInTime.Tied
      ∧ (∀ t ∈ Call.recv.takings answeredInTime.session, t.TakesOldest)
      ∧ answeredInTime.ReleasesOldest
      ∧ (∀ t ∈ Call.recv.takings answeredInTime.session, t.SparesLater)
      ∧ answeredInTime.KeepsUncounted := by
  have paced := pacedRun_answeredInTime .untilAnswer
  have few : answeredInTime.sent.length < UInt32.size := by decide +kernel
  obtain ⟨tied, oldest, released, spares, kept⟩ :
      answeredInTime.Tied ∧ (∀ t ∈ Call.recv.takings answeredInTime.session, t.TakesOldest)
        ∧ answeredInTime.ReleasesOldest
        ∧ (∀ t ∈ Call.recv.takings answeredInTime.session, t.SparesLater)
        ∧ answeredInTime.KeepsUncounted := by
    obtain ⟨tied, oldest, released, spares⟩ := sparesLater_of_pacedRun begins_quiet paced.run few
    exact ⟨tied, oldest, released, spares paced⟩
  exact ⟨begins_quiet, paced.run, few, paced, takes_answeredInTime, tied, oldest, released, spares,
    kept⟩

/-- An acknowledgement is asked for while no stanza waits, and one is sent before the answer
arrives. -/
def askedTooEarly : Dialogue :=
  ((({ session := quiet } : Dialogue).call .requestAck).hear Ledger.requestFrame []).tell
    (Ledger.acknowledgement 0) []

def answeredTooEarly : Dialogue :=
  (askedTooEarly.call (.send greeting)).arrive (countBytes "0") []

theorem run_answeredTooEarly (counting : Counting) :
    Run counting (·.arrival? = none) { session := quiet } answeredTooEarly := by
  have under_way : (({ session := quiet } : Dialogue).call .requestAck).toPeer =
      [Ledger.requestFrame] := by decide +kernel
  have owed : ((({ session := quiet } : Dialogue).call .requestAck).hear
      Ledger.requestFrame []).owed = [0] := by decide +kernel
  have zero : Ledger.countOf? (Ledger.acknowledgement 0) = some (UInt32.ofNat 0) := by
    decide +kernel
  have comes : (askedTooEarly.call (.send greeting)).toSession =
      [Ledger.acknowledgement 0] ++ [] := by decide +kernel
  have asked : Run counting (·.arrival? = none) { session := quiet } askedTooEarly :=
    ((Relation.ReflTransGen.single (.call rfl)).tail (.hear under_way)).tail
      (.answer owed (counting.allows_asked (Nat.zero_le _)) (by decide) zero)
  exact (asked.tail (.call rfl)).tail (.arrive comes (by decide +kernel))

def waitingOne : Ledger := { sent := 1, unacked := [(1, greeting)] }

def emptied : Session :=
  (manage (Ledger.acknowledgement 0) waitingOne
    (answeredTooEarly.session.setConnection answeredTooEarly.session.connection.recv.2)).2

theorem takings_answeredTooEarly : Call.recv.takings answeredTooEarly.session =
    [.frame (Ledger.acknowledgement 0) waitingOne] := by
  have first : answeredTooEarly.session.recvTakings =
      .frame (Ledger.acknowledgement 0) waitingOne :: emptied.recvTakings :=
    recvTakings_of_frame (by decide +kernel) (by decide +kernel) rfl (by decide +kernel)
  have rest : emptied.recvTakings = [] := recvTakings_of_waiting (by decide +kernel)
  change answeredTooEarly.session.recvTakings = _
  rw [first, rest]

theorem countOf?_acknowledgement_zero : Ledger.countOf? (Ledger.acknowledgement 0) = some 0 := by
  decide +kernel

theorem not_sparesLater_waitingOne : ¬ waitingOne.SparesLater (Ledger.acknowledgement 0) := by
  intro spares
  have stays := spares 0 countOf?_acknowledgement_zero (1, greeting) (.head _) (by decide)
  rw [Ledger.unacked_handle rfl countOf?_acknowledgement_zero] at stays
  cases stays

theorem not_keepsUncounted_answeredTooEarly : ¬ answeredTooEarly.KeepsUncounted := by
  rintro ⟨l, l', on, off, kept⟩
  have ledger : answeredTooEarly.session.ledger = some waitingOne := by decide +kernel
  cases ledger.symm.trans on
  have taken : answeredTooEarly.taken = [some 0] := by
    rw [taken, takings_answeredTooEarly, ← countOf?_acknowledgement_zero]
    rfl
  obtain ⟨l'', off', left⟩ := drop_of_accounts (accounts_recv answeredTooEarly.session).1 ledger
  cases off.symm.trans off'
  change l'.unacked = waitingOne.unacked.drop (answeredTooEarly.taken.countP _) at left
  rw [taken] at left
  have empty : l'.unacked = [] := left
  have stays := kept (1, greeting) (.head _) fun count mem => by
    rw [taken] at mem
    cases List.mem_singleton.1 mem
    decide
  rw [empty] at stays
  cases stays

/-- A stanza can leave the ledger before the peer has counted it, whenever the peer settles the
count of an answer. -/
theorem not_always_sparesLater :
    ¬ ∀ (s : Session) (d : Dialogue), Begins s →
      (∀ counting, Run counting (·.arrival? = none) { session := s } d) →
      d.sent.length < UInt32.size →
        (∀ t ∈ Call.recv.takings d.session, t.SparesLater) ∨ d.KeepsUncounted := by
  intro always
  have few : answeredTooEarly.sent.length < UInt32.size := by decide +kernel
  rcases always quiet answeredTooEarly begins_quiet run_answeredTooEarly few with spares | kept
  · rw [takings_answeredTooEarly] at spares
    exact not_sparesLater_waitingOne (spares _ (.head _) rfl)
  · exact not_keepsUncounted_answeredTooEarly kept

end Dialogue
end XmppStream
