import XmppStream.Management.Ledger

/-! The ledger loses, repeats and reorders nothing. Whatever is done with it, the entries released
and those that still wait are the stanzas sent, in order and numbered from one. -/

namespace XmppStream.Ledger

inductive Operation where
  | record (stanza : Stanza)
  | countReceived
  | acknowledge (count : UInt32)
  | release
  | request
  | answer
  | handle (frame : Stanza)
deriving DecidableEq

def countOf? (frame : Stanza) : Option UInt32 := (frame.attr "h").bind counter?

namespace Operation

def perform (op : Operation) (l : Ledger) : Ledger :=
  match op with
  | record s => l.record s
  | countReceived => l.countReceived
  | acknowledge count => (l.acknowledge count).2
  | release => l.release.2
  | request => l
  | answer => l
  | handle frame => (l.handle frame).2

/-- The entry that an operation releases. A frame releases one if it is an acknowledgement with a
count. -/
def released? (op : Operation) (l : Ledger) : Option (UInt32 × Stanza) :=
  match op with
  | acknowledge count => (l.acknowledge count).1
  | release => l.release.1
  | handle frame =>
    if frame.kind = .smAck then (countOf? frame).bind fun count => (l.acknowledge count).1 else none
  | _ => none

def sent? : Operation → Option Stanza
  | record s => some s
  | _ => none

end Operation

def performAll (l : Ledger) : List Operation → Ledger
  | [] => l
  | op :: ops => performAll (op.perform l) ops

def releasedBy (l : Ledger) : List Operation → List (UInt32 × Stanza)
  | [] => []
  | op :: ops => (op.released? l).toList ++ releasedBy (op.perform l) ops

/-- Stanzas under the numbers of their places, modulo `2 ^ 32`. -/
def numbered (ss : List Stanza) : List (UInt32 × Stanza) :=
  ss.mapIdx fun i s => (UInt32.ofNat (i + 1), s)

theorem numbered_concat (ss : List Stanza) (s : Stanza) :
    numbered (ss ++ [s]) = numbered ss ++ [(UInt32.ofNat ss.length + 1, s)] := by
  unfold numbered
  rw [List.mapIdx_concat, UInt32.ofNat_add]
  rfl

theorem fst_numbered (ss : List Stanza) :
    (numbered ss).map Prod.fst = (List.range' 1 ss.length).map UInt32.ofNat := by
  apply List.ext_getElem
  · simp [numbered]
  · intro i _ _
    simp [numbered, Nat.add_comm]

/-- The ledger after the stanzas `ss` were sent and the entries `out` released. -/
structure Balanced (l : Ledger) (out : List (UInt32 × Stanza)) (ss : List Stanza) : Prop where
  entries : out ++ l.unacked = numbered ss
  sent : l.sent = UInt32.ofNat ss.length

namespace Balanced

variable {l : Ledger} {out : List (UInt32 × Stanza)} {ss : List Stanza}

theorem fresh : Balanced {} [] [] := ⟨rfl, rfl⟩

theorem record (h : Balanced l out ss) (s : Stanza) : Balanced (l.record s) out (ss ++ [s]) := by
  constructor
  · rw [numbered_concat, ← h.entries, ← h.sent, List.append_assoc]
    rfl
  · rw [List.length_append, UInt32.ofNat_add, ← h.sent]
    rfl

theorem countReceived (h : Balanced l out ss) : Balanced l.countReceived out ss :=
  ⟨h.entries, h.sent⟩

theorem release (h : Balanced l out ss) :
    Balanced l.release.2 (out ++ l.release.1.toList) ss := by
  refine ⟨?_, h.sent⟩
  have split : l.unacked.head?.toList ++ l.unacked.tail = l.unacked := by
    cases l.unacked <;> rfl
  rw [← h.entries, List.append_assoc]
  exact congrArg (out ++ ·) split

theorem length (h : Balanced l out ss) : out.length + l.unacked.length = ss.length := by
  rw [← List.length_append, h.entries, numbered, List.length_mapIdx]

theorem unacked (h : Balanced l out ss) : l.unacked = (numbered ss).drop out.length := by
  rw [← h.entries, List.drop_left]

theorem counts (h : Balanced l out ss) :
    l.unacked.map Prod.fst =
      (List.range' (out.length + 1) l.unacked.length).map UInt32.ofNat := by
  have left : ss.length - out.length = l.unacked.length := by
    rw [← h.length, Nat.add_sub_cancel_left]
  rw [h.unacked, List.map_drop, fst_numbered, ← List.map_drop, List.drop_range', ← h.unacked, left,
    Nat.mul_one, Nat.add_comm]

theorem next (h : Balanced l out ss) {entry : UInt32 × Stanza} {later : List (UInt32 × Stanza)}
    (waiting : l.unacked = entry :: later) :
    ∃ s, ss[out.length]? = some s ∧ entry = (UInt32.ofNat (out.length + 1), s)
      ∧ later = (numbered ss).drop (out.length + 1) := by
  have entries := h.entries
  rw [waiting] at entries
  have here : (numbered ss)[out.length]? = some entry := by
    rw [← entries, List.getElem?_append_right (Nat.le_refl _), Nat.sub_self]
    rfl
  rw [numbered, List.getElem?_mapIdx, Option.map_eq_some_iff] at here
  obtain ⟨s, found, rfl⟩ := here
  refine ⟨s, found, rfl, ?_⟩
  rw [← entries, ← List.drop_drop, List.drop_left]
  rfl

end Balanced

/-- A frame changes the ledger only as an acknowledgement with a count, which releases an entry. -/
theorem handle_cases (l : Ledger) (frame : Stanza) :
    (∃ count, frame.kind = .smAck ∧ countOf? frame = some count
        ∧ l.handle frame = (.ok none, (l.acknowledge count).2))
      ∨ (frame.kind = .smAck ∧ countOf? frame = none ∧ (l.handle frame).2 = l
        ∧ ∃ why, (l.handle frame).1 = .error (.invalidAck why))
      ∨ frame.kind = .smRequest ∧ l.handle frame = (.ok (some l.ackFrame), l)
      ∨ frame.kind ≠ .smAck ∧ frame.kind ≠ .smRequest ∧ l.handle frame = (.ok none, l) := by
  rw [handle, countOf?]
  split
  · next kind => exact .inr (.inr (.inl ⟨kind, rfl⟩))
  · next kind =>
    cases frame.attr "h" with
    | none => exact .inr (.inl ⟨kind, rfl, rfl, .missingCount, rfl⟩)
    | some text =>
      rw [Option.bind_some]
      dsimp only
      cases counter? text with
      | none => exact .inr (.inl ⟨kind, rfl, rfl, .notACounter text, rfl⟩)
      | some count => exact .inl ⟨count, kind, rfl, rfl⟩
  · next request ack => exact .inr (.inr (.inr ⟨ack, request, rfl⟩))

theorem handle_of_counts {l : Ledger} {frame : Stanza} {count : UInt32} (ack : frame.kind = .smAck)
    (counts : countOf? frame = some count) :
    l.handle frame = (.ok none, (l.acknowledge count).2) := by
  rcases l.handle_cases frame with ⟨count', -, -, handled⟩ | ⟨-, uncounted, -⟩ | ⟨request, -⟩
    | ⟨other, -⟩
  · exact handled
  · rw [uncounted] at counts
    cases counts
  · rw [ack] at request
    cases request
  · exact absurd ack other

theorem handle_of_uncounted {l : Ledger} {frame : Stanza} (h : countOf? frame = none) :
    (l.handle frame).2 = l := by
  rcases handle_cases l frame with ⟨count, -, counts, -⟩ | ⟨-, -, same, -⟩ | ⟨-, handled⟩
    | ⟨-, -, handled⟩
  · rw [h] at counts
    cases counts
  · exact same
  · rw [handled]
  · rw [handled]

theorem handle_eq_self {l : Ledger} {frame : Stanza}
    (h : (l.handle frame).1 ≠ .ok none ∨ frame.kind ≠ .smAck) : (l.handle frame).2 = l := by
  rcases handle_cases l frame with ⟨count, ack, -, handled⟩ | ⟨-, -, same, -⟩ | ⟨-, handled⟩
    | ⟨-, -, handled⟩
  · rcases h with other | other
    · exact absurd (by rw [handled]) other
    · exact absurd ack other
  · exact same
  · rw [handled]
  · rw [handled]

theorem released?_handle (frame : Stanza) (l : Ledger) : (Operation.handle frame).released? l =
    if frame.kind = .smAck then (countOf? frame).bind fun count => (l.acknowledge count).1
    else none := rfl

theorem Balanced.handle {l : Ledger} {out : List (UInt32 × Stanza)} {ss : List Stanza}
    (h : Balanced l out ss) (frame : Stanza) :
    Balanced (l.handle frame).2 (out ++ ((Operation.handle frame).released? l).toList) ss := by
  rw [released?_handle]
  rcases handle_cases l frame with ⟨count, ack, counts, handled⟩ | ⟨ack, counts, same, -⟩
    | ⟨request, handled⟩ | ⟨other, -, handled⟩
  · rw [handled, if_pos ack, counts]
    exact h.release
  · rw [same, if_pos ack, counts]
    simpa using h
  · rw [handled, if_neg (by rw [request]; decide)]
    simpa using h
  · rw [handled, if_neg other]
    simpa using h

theorem Balanced.perform {l : Ledger} {out : List (UInt32 × Stanza)} {ss : List Stanza}
    (h : Balanced l out ss) (op : Operation) :
    Balanced (op.perform l) (out ++ (op.released? l).toList) (ss ++ op.sent?.toList) := by
  cases op with
  | record s =>
    change Balanced (l.record s) (out ++ []) (ss ++ [s])
    rw [List.append_nil]
    exact h.record s
  | countReceived =>
    change Balanced l.countReceived (out ++ []) (ss ++ [])
    rw [List.append_nil, List.append_nil]
    exact h.countReceived
  | acknowledge count =>
    change Balanced l.release.2 (out ++ l.release.1.toList) (ss ++ [])
    rw [List.append_nil]
    exact h.release
  | release =>
    change Balanced l.release.2 (out ++ l.release.1.toList) (ss ++ [])
    rw [List.append_nil]
    exact h.release
  | request =>
    change Balanced l (out ++ []) (ss ++ [])
    rwa [List.append_nil, List.append_nil]
  | answer =>
    change Balanced l (out ++ []) (ss ++ [])
    rwa [List.append_nil, List.append_nil]
  | handle frame =>
    have entries := h.handle frame
    rw [← List.append_nil ss] at entries
    exact entries

theorem Balanced.performAll {l : Ledger} {out : List (UInt32 × Stanza)} {ss : List Stanza}
    (h : Balanced l out ss) (ops : List Operation) :
    Balanced (l.performAll ops) (out ++ l.releasedBy ops) (ss ++ ops.filterMap Operation.sent?) := by
  -- The accounts after one operation are those that the rest begins with.
  induction ops generalizing l out ss with
  | nil => simpa [Ledger.performAll, releasedBy] using h
  | cons op ops ih =>
    have rest := ih (h.perform op)
    rw [List.append_assoc, List.append_assoc] at rest
    rw [Ledger.performAll, releasedBy, List.filterMap_cons]
    cases known : op.sent? with
    | none =>
      rw [known] at rest
      exact rest
    | some s =>
      rw [known] at rest
      exact rest

theorem received_handle (l : Ledger) (frame : Stanza) :
    (l.handle frame).2.received = l.received := by
  rcases handle_cases l frame with ⟨count, -, -, handled⟩ | ⟨-, -, same, -⟩ | ⟨-, handled⟩
    | ⟨-, -, handled⟩
  · rw [handled]
    rfl
  · rw [same]
  · rw [handled]
  · rw [handled]

theorem received_performAll (l : Ledger) (ops : List Operation) :
    (l.performAll ops).received = l.received + UInt32.ofNat (ops.count .countReceived) := by
  induction ops generalizing l with
  | nil => exact (UInt32.add_zero _).symm
  | cons op ops ih =>
    have same (other : op ≠ .countReceived) : (op.perform l).received = l.received := by
      cases op with
      | countReceived => exact absurd rfl other
      | handle frame => exact received_handle l frame
      | _ => rfl
    rw [performAll, ih]
    by_cases counts : op = .countReceived
    · rw [counts, List.count_cons_self, Nat.add_comm, UInt32.ofNat_add, ← UInt32.add_assoc]
      rfl
    · rw [same counts, List.count_cons_of_ne counts]

/-- Whatever operations are made on a fresh ledger, in any order: the entries released and then
those that wait are the stanzas sent, in order and numbered from one, and both counts are right. A
frame that is refused, that is answered, or that is no acknowledgement changes nothing. -/
theorem released_append_unacked (ops : List Operation) :
    let l := performAll {} ops
    releasedBy {} ops ++ l.unacked = numbered (ops.filterMap Operation.sent?)
      ∧ l.sent = UInt32.ofNat (ops.filterMap Operation.sent?).length
      ∧ l.received = UInt32.ofNat (ops.count .countReceived)
      ∧ ∀ frame, (l.handle frame).1 ≠ .ok none ∨ frame.kind ≠ .smAck → (l.handle frame).2 = l := by
  have balanced := Balanced.fresh.performAll ops
  have received := received_performAll {} ops
  rw [UInt32.zero_add] at received
  exact ⟨balanced.entries, balanced.sent, received, fun _ h => handle_eq_self h⟩

end XmppStream.Ledger
