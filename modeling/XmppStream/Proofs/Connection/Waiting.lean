import XmppStream.Proofs.Connection.Restart

/-! A wait with an end: what was read by then, and why there is no more where it was in vain. -/

namespace XmppStream

namespace Arrival

inductive Reads (arrivals : List Arrival) : List Bytes → List Arrival → Prop where
  | none : Reads arrivals [] arrivals
  | read {reads : List Bytes} {left rest : List Arrival} {data : Bytes}
      (before : Reads arrivals reads left) (read : next left = (some (.ok data), rest)) :
      Reads arrivals (reads ++ [data]) rest

theorem Reads.trans {arrivals left rest : List Arrival} {reads more : List Bytes}
    (h : Reads arrivals reads left) (h' : Reads left more rest) :
    Reads arrivals (reads ++ more) rest := by
  induction h' with
  | none =>
    rw [List.append_nil]
    exact h
  | read _ read ih =>
    rw [← List.append_assoc]
    exact .read ih read

end Arrival

def Reader.BringsHeader (r : Reader) (reads : List Bytes) : Prop :=
  ∃ known, .opened known ∈ (r.pushAll reads).2

theorem Reader.bringsHeader_append {r : Reader} {reads more : List Bytes} :
    r.BringsHeader (reads ++ more) ↔
      r.BringsHeader reads ∨ (r.pushAll reads).1.BringsHeader more := by
  unfold BringsHeader
  rw [pushAll_append, ← exists_or]
  simp only [List.mem_append]

namespace Connection

/-- From `c` to `c'` these reads are taken, and the reader finds no fault in them. The stanzas
`given` are handed out, and the others wait. What is written in between does not matter. -/
structure Heard (c : Connection) (reads : List Bytes) (given : List Stanza) (c' : Connection) :
    Prop where
  arrivals : Arrival.Reads c.wire.arrivals reads c'.wire.arrivals
  ended : c'.wire.ended = c.wire.ended
  reader : c'.reader = (c.reader.pushAll reads).1
  fine : c'.reader.fault = none
  stanzas : c.inbox ++ c.reader.stanzas reads = given ++ c'.inbox
  closed : c'.peerClosed = true ↔ c.peerClosed = true ∨ .closed ∈ (c.reader.pushAll reads).2

/-- Why a wait for something that has not come is in vain. -/
inductive Stops (late : Awaiting) (c : Connection) : ConnectionFault → Prop where
  | closed (known : c.peerClosed = true) : Stops late c .closed
  | ended (unclosed : c.peerClosed = false) (nothing : (Arrival.next c.wire.arrivals).1 = none)
      (gone : c.wire.ended = true) : Stops late c .closed
  | late (unclosed : c.peerClosed = false) (nothing : (Arrival.next c.wire.arrivals).1 = none)
      (silent : c.wire.ended = false) : Stops late c (.timeout late)
  | transport {detail : String} (unclosed : c.peerClosed = false)
      (failed : (Arrival.next c.wire.arrivals).1 = some (.error detail)) : Stops late c (.io detail)
  | reader {data : Bytes} {why : ReaderFault} (unclosed : c.peerClosed = false)
      (read : (Arrival.next c.wire.arrivals).1 = some (.ok data))
      (failed : (c.reader.push data).1.fault = some why) : Stops late c (.reader why)

namespace Heard

variable {c c₁ c₂ : Connection} {reads more : List Bytes} {given givenNext : List Stanza}

theorem refl (fine : c.reader.fault = none) : Heard c [] [] c :=
  ⟨.none, rfl, rfl, fine, List.append_nil _, by simp [Reader.pushAll]⟩

theorem trans (h : Heard c reads given c₁) (h' : Heard c₁ more givenNext c₂) :
    Heard c (reads ++ more) (given ++ givenNext) c₂ := by
  refine ⟨h.arrivals.trans h'.arrivals, h'.ended.trans h.ended, ?_, h'.fine, ?_, ?_⟩
  · rw [Reader.pushAll_append, h'.reader, h.reader]
  · have both : c.reader.stanzas (reads ++ more) =
        c.reader.stanzas reads ++ c₁.reader.stanzas more := by
      rw [Reader.stanzas, Reader.pushAll_append, List.filterMap_append, h.reader]
      rfl
    rw [both, ← List.append_assoc, h.stanzas, List.append_assoc, h'.stanzas, List.append_assoc]
  · rw [h'.closed, h.closed, Reader.pushAll_append, List.mem_append, h.reader, or_assoc]

theorem of_same (fine : c.reader.fault = none) (wire : c₁.wire.arrivals = c.wire.arrivals)
    (ended : c₁.wire.ended = c.wire.ended) (reader : c₁.reader = c.reader)
    (inbox : c₁.inbox = c.inbox) (closed : c₁.peerClosed = c.peerClosed) : Heard c [] [] c₁ := by
  refine ⟨wire ▸ .none, ended, reader, reader ▸ fine, ?_, ?_⟩
  · rw [inbox]
    exact List.append_nil _
  · rw [closed]
    simp [Reader.pushAll]

theorem writing (fine : c.reader.fault = none) (text : String) : Heard c [] [] (c.writing text) :=
  of_same fine rfl rfl rfl rfl rfl

theorem of_fill (read : c.fill = (.ready (), c₁)) : ∃ data, Heard c [data] [] c₁
    ∧ (c₁.header.isSome ↔ c.header.isSome ∨ c.reader.BringsHeader [data]) := by
  rw [Connection.fill] at read
  split at read
  · split at read <;> cases read
  · cases read
  · next data rest next =>
    obtain ⟨fine, rfl⟩ := receive_ready read
    refine ⟨data, ⟨.read .none ?_, ?_, ?_, ?_, ?_, ?_⟩, ?_⟩
    · rw [wire_foldl_deliver]
      exact next
    · rw [wire_foldl_deliver]
      rfl
    · rw [reader_foldl_deliver, Reader.pushAll_singleton]
      rfl
    · rw [reader_foldl_deliver]
      exact fine
    · rw [inbox_foldl_deliver, Reader.stanzas_singleton]
      rfl
    · rw [peerClosed_foldl_deliver, Reader.pushAll_singleton]
      rfl
    · rw [header_isSome_foldl_deliver, Reader.BringsHeader, Reader.pushAll_singleton]
      rfl

end Heard

theorem receive_failed {c c' : Connection} {data : Bytes} {why : ConnectionFault}
    (read : c.receive data = (.failed why, c')) :
    ∃ fault, (c.reader.push data).1.fault = some fault ∧ why = .reader fault := by
  unfold receive at read
  dsimp only at read
  cases failed : (c.reader.push data).1.fault with
  | none =>
    rw [failed] at read
    cases read
  | some fault =>
    rw [failed] at read
    cases read
    exact ⟨fault, rfl, rfl⟩

theorem receive_not_waiting {c c' : Connection} {data : Bytes} :
    c.receive data ≠ (.waiting, c') := by
  unfold receive
  dsimp only
  cases (c.reader.push data).1.fault with
  | none => nofun
  | some fault => nofun

section
variable {c c' : Connection} (late : Awaiting)

theorem stops_of_failed {why : ConnectionFault} (unclosed : c.peerClosed = false)
    (read : c.fill = (.failed why, c')) : c.Stops late why := by
  rw [fill] at read
  split at read
  · next nothing =>
    split_ifs at read with gone
    · cases read
      exact .ended unclosed (by rw [nothing]) gone
    · cases read
  · next failed =>
    cases read
    exact .transport unclosed (by rw [failed])
  · next data rest next =>
    obtain ⟨fault, failed, rfl⟩ := receive_failed read
    exact .reader unclosed (by rw [next]) failed

theorem stops_of_waiting (unclosed : c.peerClosed = false) (read : c.fill = (.waiting, c')) :
    c.Stops late (.timeout late) := by
  rw [fill] at read
  split at read
  · next nothing =>
    split_ifs at read with gone
    · cases read
    · exact .late unclosed (by rw [nothing]) (by simpa using gone)
  · cases read
  · exact absurd read receive_not_waiting

theorem await_within {α : Type} (take? : Connection → Option (α × Connection))
    {P : Connection → Prop} (step : ∀ c c', P c → c.fill = (.ready (), c') → P c') (start : P c) :
    ∃ c₁, P c₁ ∧ ((∃ a c₂, take? c₁ = some (a, c₂)
          ∧ Act.within (.timeout late) (await take?) c = (.ready a, c₂))
        ∨ ∃ why, take? c₁ = none ∧ c₁.Stops late why
          ∧ Act.within (.timeout late) (await take?) c = (.failed why, (await take? c).2)) := by
  obtain ⟨c₁, holds, waits⟩ :=
    await_cases take? (fun c c' holds _ read => step c c' holds read) start
  refine ⟨c₁, holds, ?_⟩
  unfold Act.within
  generalize await take? c = result at waits
  cases waits with
  | found there => exact .inl ⟨_, _, there, rfl⟩
  | closed missing closed => exact .inr ⟨_, missing, .closed closed, rfl⟩
  | failed missing unclosed read => exact .inr ⟨_, missing, stops_of_failed late unclosed read, rfl⟩
  | waiting missing unclosed read =>
    exact .inr ⟨_, missing, stops_of_waiting late unclosed read, rfl⟩

end

section
variable {c : Connection}

theorem recv_within (fine : c.reader.fault = none) (late : Awaiting) :
    ∃ reads, (∃ s c', recv.within (.timeout late) c = (.ready s, c') ∧ Heard c reads [s] c')
      ∨ ∃ c' why, recv.within (.timeout late) c = (.failed why, c.recv.2)
        ∧ Heard c reads [] c' ∧ c'.inbox = [] ∧ c'.Stops late why := by
  have step (c₁ c₂ : Connection) (h : ∃ reads, Heard c reads [] c₁)
      (read : c₁.fill = (.ready (), c₂)) : ∃ reads, Heard c reads [] c₂ := by
    obtain ⟨reads, heard⟩ := h
    obtain ⟨data, one, -⟩ := Heard.of_fill read
    exact ⟨reads ++ [data], heard.trans one⟩
  obtain ⟨c₁, ⟨reads, heard⟩, ⟨s, c₂, there, ready⟩ | ⟨why, missing, stops, failed⟩⟩ :=
    await_within late takeStanza? step ⟨[], .refl fine⟩
  · obtain ⟨inbox, waiting, rfl⟩ := takeStanza?_eq_some there
    refine ⟨reads, .inl ⟨s, _, ready, ?_⟩⟩
    refine ⟨heard.arrivals, heard.ended, heard.reader, heard.fine, ?_, heard.closed⟩
    rw [heard.stanzas, waiting]
    rfl
  · exact ⟨reads, .inr ⟨c₁, why, failed, heard, inbox_of_takeStanza?_eq_none missing, stops⟩⟩

def Listens (c c' : Connection) : Prop :=
  ∃ reads, Heard c reads [] c' ∧ (c'.header.isSome ↔ c.reader.BringsHeader reads)

theorem Listens.start (fine : c.reader.fault = none) (unknown : c.header = none) : Listens c c := by
  refine ⟨[], .refl fine, ?_⟩
  rw [unknown]
  simp [Reader.BringsHeader, Reader.pushAll]

theorem Listens.fill {c₁ c₂ : Connection} (h : Listens c c₁) (read : c₁.fill = (.ready (), c₂)) :
    Listens c c₂ := by
  obtain ⟨reads, heard, known⟩ := h
  obtain ⟨data, one, brings⟩ := Heard.of_fill read
  refine ⟨reads ++ [data], heard.trans one, ?_⟩
  rw [brings, known, Reader.bringsHeader_append, heard.reader]

theorem recvOpen_within (fine : c.reader.fault = none) (unknown : c.header = none)
    (late : Awaiting) :
    ∃ reads, (∃ known c', recvOpen.within (.timeout late) c = (.ready known, c')
        ∧ Heard c reads [] c' ∧ c.reader.BringsHeader reads)
      ∨ ∃ c' why, recvOpen.within (.timeout late) c = (.failed why, c.recvOpen.2)
        ∧ Heard c reads [] c' ∧ ¬ c.reader.BringsHeader reads ∧ c'.Stops late why := by
  obtain ⟨c₁, ⟨reads, heard, known⟩, ⟨header, c₂, found, ready⟩ | ⟨why, missing, stops, failed⟩⟩ :=
    await_within late takeHeader? (fun _ _ => Listens.fill) (.start fine unknown)
  · obtain ⟨there, rfl⟩ := takeHeader?_eq_some found
    refine ⟨reads, .inl ⟨header, _, ready, ?_, known.1 (by rw [there]; rfl)⟩⟩
    exact ⟨heard.arrivals, heard.ended, heard.reader, heard.fine, heard.stanzas, heard.closed⟩
  · have nothing : c₁.header = none := by simpa [takeHeader?] using missing
    refine ⟨reads, .inr ⟨c₁, why, failed, heard, ?_, stops⟩⟩
    rw [← known, nothing]
    exact Bool.false_ne_true

end

end Connection

end XmppStream
