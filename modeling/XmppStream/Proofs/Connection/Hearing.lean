import XmppStream.Proofs.Connection.Inbound
import XmppStream.Proofs.Reader.Grammar

/-! What a connection has still to give. It hears the reads of its transport one after another, up
to the close of the stream or to one that fails, and gives what it heard before it reads on. -/

namespace XmppStream

/-- What is heard of a stream up to its close, or up to a read that fails. -/
structure Hearing where
  events : List Event := []
  failing : Option (ReaderFault × List Event) := none
deriving DecidableEq, Repr

namespace Hearing

def stanzas (h : Hearing) : List Stanza := h.events.filterMap Event.stanza?

def headers (h : Hearing) : List Header := h.events.filterMap Event.header?

def late (h : Hearing) : List Event := (h.failing.map Prod.snd).getD []

def ending : Option (ReaderFault × List Event) → ConnectionFault
  | none => .closed
  | some (why, _) => .reader why

def outcome : Option (ReaderFault × List Event) → Awaited ConnectionFault Unit
  | none => .ready ()
  | some (why, _) => .failed (.reader why)

def after (found : List Event) (h : Hearing) : Hearing := { h with events := found ++ h.events }

end Hearing

namespace Reader

def hear (r : Reader) : List Bytes → Hearing
  | [] => {}
  | data :: pieces =>
    match (r.push data).1.fault with
    | some why => { failing := some (why, (r.push data).2) }
    | none =>
      if .closed ∈ (r.push data).2 then { events := (r.push data).2 }
      else ((r.push data).1.hear pieces).after (r.push data).2

theorem events_hear {framing : Framing} {r : Reader} {events : List Event}
    (tells : Tells framing r events) (pieces : List Bytes) :
    (r.hear pieces).events ++ (r.hear pieces).late = (r.pushAll pieces).2 := by
  -- On the reads; the grammar of the events before (`Tells`) is what makes the rest silent.
  induction pieces generalizing r events with
  | nil => rfl
  | cons data pieces ih =>
    rw [hear, pushAll]
    cases failed : (r.push data).1.fault with
    | some why => rfl
    | none =>
      have next := tells.push data
      dsimp only [Option.isSome_none]
      rw [if_neg Bool.false_ne_true]
      split_ifs with closed
      · rw [next.silent (List.mem_append_right _ closed)]
        rfl
      · rw [← ih next, ← List.append_assoc]
        rfl

theorem failing_hear {r : Reader} {pieces : List Bytes}
    (fine : (r.pushAll pieces).1.fault = none) : (r.hear pieces).failing = none := by
  induction pieces generalizing r with
  | nil => rfl
  | cons data pieces ih =>
    obtain ⟨first, rest⟩ := pushAll_of_fine fine
    rw [hear, first]
    dsimp only
    split_ifs
    · rfl
    · exact ih (rest ▸ fine)

theorem neverKeepsTooMuch_of_fine {r : Reader} {pieces : List Bytes}
    (fine : (r.pushAll pieces).1.fault = none) : r.NeverKeepsTooMuch pieces := by
  induction pieces generalizing r with
  | nil => trivial
  | cons data pieces ih =>
    obtain ⟨first, rest⟩ := pushAll_of_fine fine
    refine ⟨?_, ih (rest ▸ fine)⟩
    rintro ⟨-, -, large⟩
    rw [first] at large
    cases large

theorem push_nil (framing : Framing) (limit : Nat) :
    (fresh framing limit).push [] = (fresh framing limit, []) := by
  have nothing : Markup.lex [] = ([], .text []) := Markup.lex_of_ending rfl
  rw [push_of_complete rfl rfl (by decide) (by rw [nothing]), nothing, steps]

theorem pushAll_of_unmarked {framing : Framing} {limit : Nat} {pieces : List Bytes}
    (mark : ¬ byteOrderMark <:+: pieces.flatten)
    (fine : ((fresh framing limit).pushAll pieces).1.fault = none) :
    (fresh framing limit).pushAll pieces = (fresh framing limit).push pieces.flatten := by
  cases pieces with
  | nil => rw [pushAll, List.flatten_nil, push_nil]
  | cons data pieces => exact pushAll_cons rfl mark (neverKeepsTooMuch_of_fine fine)

end Reader

namespace Connection

/-- What one read can give. -/
def IsRead (data : Bytes) : Prop := data ≠ [] ∧ data.length ≤ Arrival.readSize

instance (data : Bytes) : Decidable (IsRead data) := inferInstanceAs (Decidable (_ ∧ _))

structure Faces (c : Connection) (pieces : List Bytes) : Prop where
  arrivals : c.wire.arrivals = pieces.map .bytes
  ended : c.wire.ended = true
  reads : ∀ data ∈ pieces, IsRead data

theorem Faces.of_wire {c c' : Connection} {pieces : List Bytes} (faces : c.Faces pieces)
    (same : c'.wire = c.wire) : c'.Faces pieces := by
  obtain ⟨arrivals, ended, reads⟩ := faces
  rw [← same] at arrivals ended
  exact ⟨arrivals, ended, reads⟩

def ahead (c : Connection) (pieces : List Bytes) : Hearing :=
  if c.peerClosed then {} else c.reader.hear pieces

theorem header_foldl_deliver {events : List Event} {c : Connection}
    (single : (c.header.toList ++ events.filterMap Event.header?).length ≤ 1) :
    (events.foldl deliver c).header.toList =
      c.header.toList ++ events.filterMap Event.header? := by
  induction events generalizing c with
  | nil => exact (List.append_nil _).symm
  | cons e events ih =>
    cases e with
    | opened header =>
      cases known : c.header with
      | some earlier =>
        rw [known] at single
        simp [Event.header?] at single
      | none =>
        rw [known] at single
        exact ih single
    | stanza s => exact ih single
    | closed => exact ih single

theorem peerClosed_foldl_deliver (events : List Event) (c : Connection) :
    (events.foldl deliver c).peerClosed = true ↔ c.peerClosed = true ∨ .closed ∈ events := by
  induction events generalizing c with
  | nil => simp
  | cons e events ih =>
    rw [List.foldl_cons, ih]
    cases e <;> simp [deliver]

theorem next_read {data : Bytes} (read : IsRead data) (rest : List Arrival) :
    Arrival.next (.bytes data :: rest) = (some (.ok data), rest) := by
  rw [Arrival.next, if_neg read.1, List.take_of_length_le read.2, List.drop_eq_nil_of_le read.2,
    if_pos rfl]

def taking (c : Connection) (data : Bytes) (rest : List Bytes) : Connection :=
  ((c.setArrivals (rest.map .bytes)).receive data).2

section
variable {c : Connection} {data : Bytes} {rest : List Bytes}

theorem fill_read (faces : c.Faces (data :: rest)) :
    c.fill = (match (c.reader.push data).1.fault with
      | some why => .failed (.reader why)
      | none => .ready (), c.taking data rest) := by
  have next := next_read (faces.reads data List.mem_cons_self) (rest.map .bytes)
  rw [fill, faces.arrivals, List.map_cons, next]
  rfl

theorem fill_end (faces : c.Faces []) :
    c.fill = (.failed .closed, { c with peerClosed := true }) := by
  obtain ⟨⟨arrivals, ended⟩⟩ := c
  obtain rfl := faces.arrivals
  obtain rfl := faces.ended
  rfl

theorem reader_taking : (c.taking data rest).reader = (c.reader.push data).1 :=
  reader_foldl_deliver _ _

theorem inbox_taking : (c.taking data rest).inbox =
    c.inbox ++ (c.reader.push data).2.filterMap Event.stanza? := inbox_foldl_deliver _ _

theorem faces_taking (faces : c.Faces (data :: rest)) : (c.taking data rest).Faces rest := by
  have wire : (c.taking data rest).wire = (c.setArrivals (rest.map .bytes)).wire :=
    wire_foldl_deliver _ _
  refine ⟨?_, ?_, fun piece mem => faces.reads piece (List.mem_cons_of_mem _ mem)⟩
  · rw [wire]
    rfl
  · rw [wire]
    exact faces.ended

theorem header_taking
    (single : (c.header.toList ++ (c.reader.push data).2.filterMap Event.header?).length ≤ 1) :
    (c.taking data rest).header.toList =
      c.header.toList ++ (c.reader.push data).2.filterMap Event.header? := by
  unfold taking receive
  exact header_foldl_deliver single

theorem peerClosed_taking : (c.taking data rest).peerClosed = true ↔
    c.peerClosed = true ∨ .closed ∈ (c.reader.push data).2 := peerClosed_foldl_deliver _ _

end

end Connection
end XmppStream
