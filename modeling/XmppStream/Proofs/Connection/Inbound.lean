import XmppStream.Connection.Basic

/-! What arrives on a connection and what it hands out: no act loses, repeats or reorders a stanza,
whatever its outcome is and whatever arrives later. -/

namespace XmppStream

namespace Arrival

theorem next_append (as bs : List Arrival) :
    next (as ++ bs) = match next as with
      | (none, _) => next bs
      | (some read, rest) => (some read, rest ++ bs) := by
  fun_induction next as with
  | case1 => rfl
  | case2 => rfl
  | case3 r ih => rw [List.cons_append, next, if_pos rfl, ih]
  | case4 data r hne =>
    rw [List.cons_append, next, if_neg hne]
    split <;> rfl

theorem rest_of_next_none {as rest : List Arrival} (h : next as = (none, rest)) : rest = [] := by
  fun_induction next as with
  | case1 => cases h; rfl
  | case2 => cases h
  | case3 r ih => exact ih h
  | case4 => cases h

end Arrival

namespace Awaited

variable {ε α : Type}

def value? : Awaited ε α → Option α
  | ready a => some a
  | _ => none

end Awaited

def Event.stanza? : Event → Option Stanza
  | .stanza s => some s
  | _ => none

def Reader.find (r : Reader) (arrivals : List Arrival) : List Stanza :=
  match _h : Arrival.next arrivals with
  | (none, _) => []
  | (some (.error _), rest) => r.find rest
  | (some (.ok data), rest) => (r.push data).2.filterMap Event.stanza? ++ (r.push data).1.find rest
termination_by Arrival.load arrivals
decreasing_by all_goals exact Arrival.load_next_lt _h

namespace Reader

theorem find_of_none {r : Reader} {as rest : List Arrival} (h : Arrival.next as = (none, rest))
    (later : List Arrival) : r.find (as ++ later) = r.find later := by
  rw [find, find, Arrival.next_append, h]

theorem find_of_error {r : Reader} {as rest : List Arrival} {detail : String}
    (h : Arrival.next as = (some (.error detail), rest)) (later : List Arrival) :
    r.find (as ++ later) = r.find (rest ++ later) := by
  have next : Arrival.next (as ++ later) = (some (.error detail), rest ++ later) := by
    rw [Arrival.next_append, h]
  rw [find]
  split
  · next e => rw [next] at e; cases e
  · next e => rw [next] at e; cases e; rfl
  · next e => rw [next] at e; cases e

theorem find_of_ok {r : Reader} {as rest : List Arrival} {data : Bytes}
    (h : Arrival.next as = (some (.ok data), rest)) (later : List Arrival) :
    r.find (as ++ later) =
      (r.push data).2.filterMap Event.stanza? ++ (r.push data).1.find (rest ++ later) := by
  have next : Arrival.next (as ++ later) = (some (.ok data), rest ++ later) := by
    rw [Arrival.next_append, h]
  rw [find]
  split
  · next e => rw [next] at e; cases e
  · next e => rw [next] at e; cases e
  · next e => rw [next] at e; cases e; rfl

end Reader

namespace Connection

def arrive (c : Connection) (arrivals : List Arrival) : Connection :=
  c.setArrivals (c.wire.arrivals ++ arrivals)

/-- The stanzas that a connection has not handed out: those in the inbox, and those that its reader
finds in what has arrived. -/
def unread (c : Connection) : List Stanza := c.inbox ++ c.reader.find c.wire.arrivals

@[simp]
theorem arrive_nil (c : Connection) : c.arrive [] = c := by
  rw [arrive, List.append_nil]
  rfl

theorem arrive_arrive (c : Connection) (as bs : List Arrival) :
    (c.arrive as).arrive bs = c.arrive (as ++ bs) := by
  unfold arrive setArrivals
  rw [List.append_assoc]

/-- From `c` to `c'` the connection gives the stanzas `given` and nothing else, so that what arrives
later comes after what is left. -/
def Gives (c : Connection) (given : List Stanza) (c' : Connection) : Prop :=
  ∀ later, (c.arrive later).unread = given ++ (c'.arrive later).unread

namespace Gives

variable {c c' c'' : Connection} {given more : List Stanza}

theorem refl (c : Connection) : Gives c [] c := fun _ => rfl

theorem trans (h : Gives c given c') (h' : Gives c' more c'') : Gives c (given ++ more) c'' := by
  intro later
  rw [h later, h' later, List.append_assoc]

theorem of_same (inbox : c'.inbox = c.inbox) (reader : c'.reader = c.reader)
    (arrivals : c'.wire.arrivals = c.wire.arrivals) : Gives c [] c' := by
  intro later
  unfold unread arrive setArrivals
  rw [inbox, reader, arrivals]
  rfl

theorem unread (h : Gives c given c') : c.unread = given ++ c'.unread := by
  have now := h []
  rwa [arrive_nil, arrive_nil] at now

end Gives

theorem inbox_foldl_deliver (events : List Event) (c : Connection) :
    (events.foldl deliver c).inbox = c.inbox ++ events.filterMap Event.stanza? := by
  induction events generalizing c with
  | nil => exact (List.append_nil _).symm
  | cons e events ih =>
    rw [List.foldl_cons, ih]
    cases e with
    | opened header => rfl
    | stanza s => exact List.append_assoc c.inbox [s] _
    | closed => rfl

theorem reader_foldl_deliver (events : List Event) (c : Connection) :
    (events.foldl deliver c).reader = c.reader := by
  induction events generalizing c with
  | nil => rfl
  | cons e events ih => rw [List.foldl_cons, ih]; cases e <;> rfl

theorem gives_fill (c : Connection) : Gives c [] c.fill.2 := by
  intro later
  rw [fill]
  split
  · next arrivals read =>
    cases Arrival.rest_of_next_none read
    have left : (c.arrive later).unread = ((c.setArrivals []).arrive later).unread := by
      unfold unread arrive setArrivals
      dsimp only
      rw [Reader.find_of_none read, List.nil_append]
    split
    · exact left
    · exact left
  · -- The reader never sees what fails to be read.
    next detail arrivals read =>
    unfold unread arrive setArrivals
    dsimp only
    rw [Reader.find_of_error read]
    rfl
  · next data arrivals read =>
    unfold unread arrive receive setArrivals
    dsimp only
    rw [Reader.find_of_ok read, inbox_foldl_deliver, reader_foldl_deliver, wire_foldl_deliver,
      List.append_assoc]
    rfl

inductive Refilled : Connection → Connection → Prop where
  | refl (c : Connection) : Refilled c c
  | fill {c c' : Connection} : Refilled c.fill.2 c' → Refilled c c'

theorem recv_cases (c : Connection) : ∃ c', Refilled c c'
    ∧ ((∃ s inbox, c'.inbox = s :: inbox ∧ c.recv = (.ready s, { c' with inbox }))
      ∨ c.recv.1.value? = none ∧ c.recv.2 = c') := by
  rw [recv]
  fun_induction await takeStanza? c with
  | case1 c s c' taken =>
    -- The inbox has a stanza.
    rw [takeStanza?] at taken
    split at taken
    · cases taken
    · next inbox waiting =>
      cases taken
      exact ⟨c, .refl c, .inl ⟨s, inbox, waiting, rfl⟩⟩
  | case2 c => exact ⟨c, .refl c, .inr ⟨rfl, rfl⟩⟩
  | case3 c _ _ c' filled ih =>
    obtain ⟨c'', refilled, outcome⟩ := ih
    refine ⟨c'', .fill ?_, outcome⟩
    rwa [filled]
  | case4 c _ _ why c' filled =>
    refine ⟨c', .fill ?_, .inr ⟨rfl, rfl⟩⟩
    rw [filled]
    exact .refl c'
  | case5 c _ _ c' filled =>
    refine ⟨c', .fill ?_, .inr ⟨rfl, rfl⟩⟩
    rw [filled]
    exact .refl c'

theorem gives_refilled {c c' : Connection} (h : Refilled c c') : Gives c [] c' := by
  induction h with
  | refl c => exact .refl c
  | fill _ ih => exact (gives_fill _).trans ih

theorem gives_take {c : Connection} {s : Stanza} {inbox : List Stanza} (h : c.inbox = s :: inbox) :
    Gives c [s] { c with inbox } := by
  intro later
  unfold unread arrive setArrivals
  rw [h]
  rfl

theorem gives_recv (c : Connection) : Gives c c.recv.1.value?.toList c.recv.2 := by
  obtain ⟨c', refilled, ⟨s, inbox, waiting, taken⟩ | ⟨nothing, left⟩⟩ := recv_cases c
  · rw [taken]
    exact (gives_refilled refilled).trans (gives_take waiting)
  · rw [nothing, left]
    exact gives_refilled refilled

theorem gives_write (text : String) (c : Connection) : Gives c [] (write text c).2 := by
  refine .of_same rfl rfl ?_
  rw [write, Wire.write]
  dsimp only
  split <;> rfl

theorem gives_send (s : Stanza) (c : Connection) : Gives c [] (send s c).2 := gives_write _ c

end Connection
end XmppStream
