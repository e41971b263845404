import XmppStream.Connection.Drain
import XmppStream.Proofs.Connection.Hearing

/-! Receiving does not depend on the reads of the transport. -/

namespace XmppStream.Connection

inductive Waits {α : Type} (take? : Connection → Option (α × Connection)) (c : Connection) :
    Awaited ConnectionFault α × Connection → Prop where
  | found {a : α} {c' : Connection} (there : take? c = some (a, c')) : Waits take? c (.ready a, c')
  | closed (missing : take? c = none) (closed : c.peerClosed = true) :
      Waits take? c (.failed .closed, c)
  | failed {why : ConnectionFault} {c' : Connection} (missing : take? c = none)
      (unclosed : c.peerClosed = false) (read : c.fill = (.failed why, c')) :
      Waits take? c (.failed why, c')
  | waiting {c' : Connection} (missing : take? c = none) (unclosed : c.peerClosed = false)
      (read : c.fill = (.waiting, c')) : Waits take? c (.waiting, c')

theorem await_cases {α : Type} (take? : Connection → Option (α × Connection))
    {P : Connection → Prop}
    (step : ∀ c c', P c → c.peerClosed = false → c.fill = (.ready (), c') → P c') {c : Connection}
    (start : P c) : ∃ c', P c' ∧ Waits take? c' (await take? c) := by
  fun_induction await take? c with
  | case1 c a c' there => exact ⟨c, start, .found there⟩
  | case2 c missing closed => exact ⟨c, start, .closed missing closed⟩
  | case3 c missing unclosed c' read ih => exact ih (step c c' start (by simpa using unclosed) read)
  | case4 c missing unclosed why c' read =>
    exact ⟨c, start, .failed missing (by simpa using unclosed) read⟩
  | case5 c missing unclosed c' read =>
    exact ⟨c, start, .waiting missing (by simpa using unclosed) read⟩

/-- The connection has taken some of the reads, others are left, and these stanzas and headers are
still to be given. -/
structure Owes (framing : Framing) (limit : Nat) (taken left : List Bytes) (ss : List Stanza)
    (hs : List Header) (failing : Option (ReaderFault × List Event)) (c : Connection) : Prop where
  faces : c.Faces left
  reader : c.reader = ((Reader.fresh framing limit).pushAll taken).1
  closed : .closed ∈ ((Reader.fresh framing limit).pushAll taken).2 → c.peerClosed = true
  stops : .closed ∉ ((Reader.fresh framing limit).pushAll taken.dropLast).2
  stanzas : c.inbox ++ (c.ahead left).stanzas = ss
  headers : framing = .stream → c.header.toList ++ (c.ahead left).headers = hs
  single : framing = .stream → hs.length ≤ 1
  failing : (c.ahead left).failing = failing

def Owing (framing : Framing) (limit : Nat) (whole : List Bytes) (ss : List Stanza)
    (hs : List Header) (failing : Option (ReaderFault × List Event)) (c : Connection) : Prop :=
  ∃ taken left, whole = taken ++ left ∧ Owes framing limit taken left ss hs failing c

section
variable {framing : Framing} {limit : Nat} {whole taken left : List Bytes} {ss : List Stanza}
  {hs : List Header} {failing : Option (ReaderFault × List Event)} {c c' : Connection}

theorem ahead_of_closed (closed : c.peerClosed = true) (left : List Bytes) : c.ahead left = {} := by
  rw [ahead, if_pos closed]

theorem ahead_of_unclosed (unclosed : c.peerClosed = false) (left : List Bytes) :
    c.ahead left = c.reader.hear left := by
  rw [ahead, if_neg (by simp [unclosed])]

theorem ahead_read {data : Bytes} {rest : List Bytes} (unclosed : c.peerClosed = false)
    (fine : (c.reader.push data).1.fault = none) :
    c.ahead (data :: rest) = ((c.taking data rest).ahead rest).after (c.reader.push data).2 := by
  rw [ahead_of_unclosed unclosed, Reader.hear, fine]
  dsimp only
  have known := @peerClosed_taking c data rest
  split_ifs with closed
  · rw [ahead_of_closed (known.2 (.inr closed)), Hearing.after, List.append_nil]
  · have unclosed' : (c.taking data rest).peerClosed = false := by
      simpa [unclosed, closed] using known
    rw [ahead_of_unclosed unclosed', reader_taking]

theorem not_waiting (faces : c.Faces left) : c.fill ≠ (.waiting, c') := by
  cases left with
  | nil =>
    rw [fill_end faces]
    simp
  | cons data rest =>
    rw [fill_read faces]
    cases (c.reader.push data).1.fault <;> simp

theorem fill_failed {why : ConnectionFault} (faces : c.Faces left) (unclosed : c.peerClosed = false)
    (read : c.fill = (.failed why, c')) :
    (c.ahead left).events = [] ∧ Hearing.ending (c.ahead left).failing = why
      ∧ (left = [] ∧ (c.ahead left).failing = none ∧ c' = { c with peerClosed := true }
        ∨ ∃ data rest fault, left = data :: rest ∧ c' = c.taking data rest
          ∧ (c.ahead left).failing = some (fault, (c.reader.push data).2)) := by
  rw [ahead_of_unclosed unclosed]
  cases left with
  | nil =>
    rw [fill_end faces] at read
    cases read
    exact ⟨rfl, rfl, .inl ⟨rfl, rfl, rfl⟩⟩
  | cons data rest =>
    rw [fill_read faces] at read
    rw [Reader.hear]
    cases failed : (c.reader.push data).1.fault with
    | none =>
      rw [failed] at read
      cases read
    | some fault =>
      rw [failed] at read
      cases read
      exact ⟨rfl, rfl, .inr ⟨data, rest, fault, rfl, rfl, rfl⟩⟩

theorem Owes.read (h : Owes framing limit taken left ss hs failing c)
    (unclosed : c.peerClosed = false) (read : c.fill = (.ready (), c')) :
    ∃ data rest, left = data :: rest
      ∧ Owes framing limit (taken ++ [data]) rest ss hs failing c' := by
  cases left with
  | nil =>
    rw [fill_end h.faces] at read
    cases read
  | cons data rest =>
    rw [fill_read h.faces] at read
    cases failed : (c.reader.push data).1.fault with
    | some why =>
      rw [failed] at read
      cases read
    | none =>
      rw [failed] at read
      cases read
      have stanzas := h.stanzas
      have headers := h.headers
      have trouble := h.failing
      rw [ahead_read unclosed failed] at stanzas headers trouble
      refine ⟨data, rest, rfl, faces_taking h.faces, ?_, ?_, ?_, ?_, ?_, h.single, trouble⟩
      · rw [reader_taking, h.reader, Reader.pushAll_concat]
      · intro closed
        rw [Reader.pushAll_concat, ← h.reader] at closed
        exact peerClosed_taking.2 ((List.mem_append.1 closed).imp_left h.closed)
      · -- A read is taken only while no close is known.
        rw [List.dropLast_concat]
        intro closed
        rw [h.closed closed] at unclosed
        cases unclosed
      · rw [inbox_taking, List.append_assoc, ← stanzas, Hearing.stanzas, Hearing.stanzas,
          Hearing.after, List.filterMap_append]
      · intro stream
        have all := headers stream
        rw [Hearing.headers, Hearing.after, List.filterMap_append, ← List.append_assoc] at all
        have single := h.single stream
        rw [← all, List.length_append] at single
        rw [header_taking ((Nat.le_add_right _ _).trans single)]
        exact all

theorem Owes.ended (h : Owes framing limit taken [] ss hs failing c) :
    Owes framing limit taken [] ss hs failing { c with peerClosed := true } := by
  have same : ({ c with peerClosed := true } : Connection).ahead [] = c.ahead [] := by
    unfold ahead
    dsimp only
    split_ifs <;> rfl
  have stanzas := h.stanzas
  have headers := h.headers
  have trouble := h.failing
  rw [← same] at stanzas headers trouble
  exact ⟨h.faces.of_wire rfl, h.reader, fun _ => rfl, h.stops, stanzas, headers, h.single, trouble⟩

theorem Owing.waits (h : Owing framing limit whole ss hs failing c) {α : Type}
    (take? : Connection → Option (α × Connection)) :
    ∃ c', Owing framing limit whole ss hs failing c' ∧ Waits take? c' (await take? c) := by
  refine await_cases take? (fun c c' h unclosed read => ?_) h
  obtain ⟨taken, left, rfl, owes⟩ := h
  obtain ⟨data, rest, rfl, owes'⟩ := owes.read unclosed read
  exact ⟨taken ++ [data], rest, by simp, owes'⟩

theorem inbox_of_takeStanza?_eq_none (missing : takeStanza? c = none) : c.inbox = [] := by
  unfold takeStanza? at missing
  split at missing
  · assumption
  · cases missing

theorem inbox_of_takeStanza? {s : Stanza} (there : takeStanza? c = some (s, c')) :
    c.inbox = s :: c'.inbox ∧ c' = { c with inbox := c'.inbox } := by
  unfold takeStanza? at there
  split at there
  · cases there
  next s' inbox waiting =>
  cases there
  exact ⟨waiting, rfl⟩

theorem Owes.takeStanza {s : Stanza} (h : Owes framing limit taken left ss hs failing c)
    (there : takeStanza? c = some (s, c')) :
    ss = s :: ss.tail ∧ Owes framing limit taken left ss.tail hs failing c' := by
  obtain ⟨waiting, same⟩ := inbox_of_takeStanza? there
  have stanzas := h.stanzas
  rw [waiting] at stanzas
  obtain rfl := stanzas
  rw [same]
  exact ⟨rfl, h.faces.of_wire rfl, h.reader, h.closed, h.stops, rfl, h.headers, h.single, h.failing⟩

theorem Owes.takeHeader {header : Header} (h : Owes framing limit taken left ss hs failing c)
    (there : takeHeader? c = some (header, c')) :
    ∃ hs', Owes framing limit taken left ss hs' failing c'
      ∧ (framing = .stream → hs = header :: hs') := by
  obtain ⟨known, found, same⟩ := Option.map_eq_some_iff.1 there
  cases same
  have headers := h.headers
  rw [found] at headers
  refine ⟨(c.ahead left).headers, ⟨h.faces.of_wire rfl, h.reader, h.closed, h.stops, h.stanzas,
    fun _ => rfl, fun stream => ?_, h.failing⟩, fun stream => (headers stream).symm⟩
  have single := h.single stream
  rw [← headers stream, List.length_append] at single
  exact (Nat.le_add_left _ _).trans single

/-- What a caller gets while items are owed, and the fault that it gets when none is. -/
def offered {α : Type} (ending : ConnectionFault) : List α → Awaited ConnectionFault α
  | [] => .failed ending
  | a :: _ => .ready a

theorem Owing.recv (h : Owing framing limit whole ss hs failing c) :
    c.recv.1 = offered (Hearing.ending failing) ss
      ∧ ((ss = [] → failing = none) ∧ Owing framing limit whole ss.tail hs failing c.recv.2
        ∨ ss = [] ∧ ∃ why late, failing = some (why, late)
          ∧ c.recv.2.inbox = late.filterMap Event.stanza?) := by
  obtain ⟨c', ⟨taken, left, rfl, owes⟩, waits⟩ := h.waits takeStanza?
  have stanzas := owes.stanzas
  have known := owes.failing
  rw [Connection.recv]
  generalize await takeStanza? c = result at waits
  -- The wait ends with a stanza there, at a known close, or by a read that fails.
  cases waits with
  | found there =>
    obtain ⟨next, owes'⟩ := owes.takeStanza there
    rw [next]
    exact ⟨rfl, .inl ⟨fun no => absurd no (List.cons_ne_nil _ _), taken, left, rfl, owes'⟩⟩
  | closed missing closed =>
    rw [inbox_of_takeStanza?_eq_none missing, ahead_of_closed closed] at stanzas
    rw [ahead_of_closed closed] at known
    obtain rfl := stanzas
    obtain rfl := known
    exact ⟨rfl, .inl ⟨fun _ => rfl, taken, left, rfl, owes⟩⟩
  | failed missing unclosed read =>
    have empty := inbox_of_takeStanza?_eq_none missing
    obtain ⟨nothing, told, outcome⟩ := fill_failed owes.faces unclosed read
    rw [known] at told outcome
    rw [empty, Hearing.stanzas, nothing] at stanzas
    obtain rfl := stanzas
    subst told
    refine ⟨rfl, ?_⟩
    rcases outcome with ⟨rfl, rfl, rfl⟩ | ⟨data, rest, why, rfl, rfl, rfl⟩
    · exact .inl ⟨fun _ => rfl, taken, [], rfl, owes.ended⟩
    · -- The read that fails is not heard, but what it brought is there.
      refine .inr ⟨rfl, why, _, rfl, ?_⟩
      rw [inbox_taking, empty]
      rfl
  | waiting missing unclosed read => exact absurd read (not_waiting owes.faces)

theorem Owing.recvOpen (h : Owing framing limit whole ss hs none c) :
    ∃ hs', Owing framing limit whole ss hs' none c.recvOpen.2
      ∧ (framing = .stream → c.recvOpen.1 = offered .closed hs ∧ hs' = hs.tail) := by
  obtain ⟨c', ⟨taken, left, rfl, owes⟩, waits⟩ := h.waits takeHeader?
  have headers := owes.headers
  rw [Connection.recvOpen]
  generalize await takeHeader? c = result at waits
  have empty (missing : takeHeader? c' = none) : c'.header = none := by
    simpa [takeHeader?] using missing
  cases waits with
  | found there =>
    obtain ⟨hs', owes', next⟩ := owes.takeHeader there
    refine ⟨hs', ⟨taken, left, rfl, owes'⟩, fun stream => ?_⟩
    rw [next stream]
    exact ⟨rfl, rfl⟩
  | closed missing closed =>
    rw [empty missing, ahead_of_closed closed] at headers
    refine ⟨hs, ⟨taken, left, rfl, owes⟩, fun stream => ?_⟩
    obtain rfl := headers stream
    exact ⟨rfl, rfl⟩
  | failed missing unclosed read =>
    obtain ⟨nothing, told, outcome⟩ := fill_failed owes.faces unclosed read
    rw [owes.failing] at told outcome
    subst told
    rcases outcome with ⟨rfl, -, rfl⟩ | ⟨data, rest, why, -, -, trouble⟩
    · refine ⟨hs, ⟨taken, [], rfl, owes.ended⟩, fun stream => ?_⟩
      have all := headers stream
      rw [empty missing, Hearing.headers, nothing] at all
      obtain rfl := all
      exact ⟨rfl, rfl⟩
    · cases trouble
  | waiting missing unclosed read => exact absurd read (not_waiting owes.faces)

end

def facing (framing : Framing) (limit : Nat) (pieces : List Bytes) : Connection where
  wire := { arrivals := pieces.map .bytes, ended := true }
  reader := Reader.fresh framing limit

inductive Ask where
  | header
  | stanza
deriving DecidableEq, Repr

def Ask.perform : Ask → Connection → Connection
  | header, c => c.recvOpen.2
  | stanza, c => c.recv.2

def asked (c : Connection) : List Ask → Connection
  | [] => c
  | ask :: asks => (ask.perform c).asked asks

def stanzaAnswers (c : Connection) : List Ask → List (Awaited ConnectionFault Stanza)
  | [] => []
  | .header :: asks => c.recvOpen.2.stanzaAnswers asks
  | .stanza :: asks => c.recv.1 :: c.recv.2.stanzaAnswers asks

def headerAnswers (c : Connection) : List Ask → List (Awaited ConnectionFault Header)
  | [] => []
  | .header :: asks => c.recvOpen.1 :: c.recvOpen.2.headerAnswers asks
  | .stanza :: asks => c.recv.2.headerAnswers asks

def handedOut {α : Type} (ending : ConnectionFault) :
    List α → Nat → List (Awaited ConnectionFault α)
  | _, 0 => []
  | items, n + 1 => offered ending items :: handedOut ending items.tail n

section
variable {framing : Framing} {limit : Nat} {whole pieces : List Bytes} {ss : List Stanza}
  {hs : List Header} {c : Connection}

theorem owing_facing (reads : ∀ data ∈ pieces, IsRead data) :
    Owing framing limit pieces ((Reader.fresh framing limit).hear pieces).stanzas
      ((Reader.fresh framing limit).hear pieces).headers
      ((Reader.fresh framing limit).hear pieces).failing (facing framing limit pieces) := by
  refine ⟨[], pieces, rfl, ⟨rfl, rfl, reads⟩, rfl, fun closed => absurd closed List.not_mem_nil,
    List.not_mem_nil, rfl, fun _ => rfl, fun stream => ?_, rfl⟩
  have tells := Reader.Tells.fresh framing limit
  have single := (tells.pushAll pieces).headers_le stream
  rw [List.nil_append, ← Reader.events_hear tells, List.filterMap_append, List.length_append] at single
  exact (Nat.le_add_right _ _).trans single

/-- Where no read fails, calls in any order give what is owed, stanzas and headers apart. -/
theorem Owing.answers (h : Owing framing limit whole ss hs none c) (asks : List Ask) :
    c.stanzaAnswers asks = handedOut .closed ss (asks.count .stanza)
      ∧ (framing = .stream → c.headerAnswers asks = handedOut .closed hs (asks.count .header))
      ∧ ∃ ss hs, Owing framing limit whole ss hs none (c.asked asks) := by
  -- Each call leaves a connection that owes the rest.
  induction asks generalizing c ss hs with
  | nil => exact ⟨rfl, fun _ => rfl, ss, hs, h⟩
  | cons ask asks ih =>
    cases ask with
    | header =>
      obtain ⟨hs', next, given⟩ := h.recvOpen
      obtain ⟨stanzas, headers, later⟩ := ih next
      refine ⟨stanzas, fun stream => ?_, later⟩
      obtain ⟨first, rfl⟩ := given stream
      rw [headerAnswers, List.count_cons_self, handedOut, first, headers stream]
    | stanza =>
      obtain ⟨first, ⟨-, next⟩ | ⟨-, _, _, trouble, -⟩⟩ := h.recv
      · obtain ⟨stanzas, headers, later⟩ := ih next
        refine ⟨?_, headers, later⟩
        rw [stanzaAnswers, List.count_cons_self, handedOut, first, stanzas]
        rfl
      · cases trouble

theorem recv_of_inbox {s : Stanza} {inbox : List Stanza} (h : c.inbox = s :: inbox) :
    c.recv = (.ready s, { c with inbox }) := by
  have there : c.takeStanza? = some (s, { c with inbox }) := by rw [takeStanza?, h]
  rw [Connection.recv, await, there]

theorem answers_of_inbox (h : c.inbox = ss) :
    c.stanzaAnswers (List.replicate ss.length .stanza) = ss.map .ready := by
  induction ss generalizing c with
  | nil => rfl
  | cons s ss ih =>
    rw [List.length_cons, List.replicate_succ, stanzaAnswers, recv_of_inbox h, ih rfl]
    rfl

theorem Owing.answersAll {failing : Option (ReaderFault × List Event)}
    (h : Owing framing limit whole ss hs failing c) :
    let late := (Hearing.late { failing }).filterMap Event.stanza?
    c.stanzaAnswers (List.replicate (ss.length + (1 + late.length)) .stanza) =
      ss.map .ready ++ .failed (Hearing.ending failing) :: late.map .ready := by
  intro late
  induction ss generalizing c with
  | nil =>
    obtain ⟨first, rest⟩ := h.recv
    -- The fault is told once, and what its read brought is in the inbox.
    have later : c.recv.2.stanzaAnswers (List.replicate late.length .stanza) = late.map .ready := by
      rcases rest with ⟨fine, -⟩ | ⟨-, why, found, rfl, left⟩
      · have nothing : late = [] := by
          simp [late, Hearing.late, fine rfl]
        rw [nothing]
        rfl
      · exact answers_of_inbox left
    rw [List.length_nil, Nat.zero_add, Nat.add_comm, List.replicate_succ, stanzaAnswers, later, first]
    rfl
  | cons s ss ih =>
    obtain ⟨first, ⟨-, next⟩ | ⟨none, -⟩⟩ := h.recv
    · rw [List.length_cons, Nat.add_right_comm, List.replicate_succ, stanzaAnswers, first, ih next]
      rfl
    · cases none

theorem stanzas_of_ready {s : Stanza} (h : c.recv.1 = .ready s) :
    c.stanzas = (s :: c.recv.2.stanzas.1, c.recv.2.stanzas.2) := by
  rw [Connection.stanzas]
  split
  · next s' c' read =>
    rw [read] at h ⊢
    cases h
    rfl
  · next read => simp [read] at h
  · next read => simp [read] at h
  · next read => simp [read] at h

theorem stanzas_of_ending {failing : Option (ReaderFault × List Event)}
    (h : c.recv.1 = .failed (Hearing.ending failing)) :
    c.stanzas = ([], Hearing.outcome failing) := by
  rw [Connection.stanzas]
  split
  · next read => simp [read] at h
  · next read =>
    rw [read] at h
    cases failing with
    | none => rfl
    | some trouble => cases h
  · next why c' other read =>
    rw [read] at h
    cases failing with
    | none =>
      cases h
      exact (other rfl).elim
    | some trouble =>
      cases h
      rfl
  · next read => simp [read] at h

theorem Owing.drained {failing : Option (ReaderFault × List Event)}
    (h : Owing framing limit whole ss hs failing c) : c.stanzas = (ss, Hearing.outcome failing) := by
  induction ss generalizing c with
  | nil => exact stanzas_of_ending h.recv.1
  | cons s ss ih =>
    obtain ⟨first, ⟨-, next⟩ | ⟨none, -⟩⟩ := h.recv
    · rw [stanzas_of_ready first, ih next]
    · cases none

end

/-- As long as the reader finds no fault, what calls give does not depend on how a stream is cut into
reads, nor on their order: each call for a stanza gives the next one of the stream, whatever calls
for a header come between, and each after the last is told that the peer has closed. In a stream
with a wrapper the first call for a header gives it, whatever came in the same read. No read is taken
after the one with the close. -/
theorem answers_whatever_the_reads (framing : Framing) (limit : Nat) (pieces : List Bytes)
    (reads : ∀ data ∈ pieces, IsRead data) (mark : ¬ Reader.byteOrderMark <:+: pieces.flatten)
    (fine : ((Reader.fresh framing limit).pushAll pieces).1.fault = none) (asks : List Ask) :
    let c := facing framing limit pieces
    let events := ((Reader.fresh framing limit).push pieces.flatten).2
    c.stanzaAnswers asks =
        handedOut .closed (events.filterMap Event.stanza?) (asks.count .stanza)
      ∧ (framing = .stream → c.headerAnswers asks =
          handedOut .closed (events.filterMap Event.header?) (asks.count .header))
      ∧ ∃ taken left, pieces = taken ++ left ∧ (c.asked asks).wire.arrivals = left.map .bytes
          ∧ .closed ∉ ((Reader.fresh framing limit).pushAll taken.dropLast).2 := by
  intro c events
  have failing := Reader.failing_hear fine
  have heard : ((Reader.fresh framing limit).hear pieces).events = events := by
    have all := Reader.events_hear (Reader.Tells.fresh framing limit) pieces
    rw [Hearing.late, failing, Reader.pushAll_of_unmarked mark fine] at all
    exact (List.append_nil _).symm.trans all
  have owing := @owing_facing framing limit pieces reads
  rw [Hearing.stanzas, Hearing.headers, heard, failing] at owing
  obtain ⟨stanzas, headers, _, _, taken, left, split, owes⟩ := owing.answers asks
  exact ⟨stanzas, headers, taken, left, split, owes.faces.arrivals, owes.stops⟩

def sharedPieces : List Bytes :=
  [Utf8.encode "<stream:stream id='s' xmlns:stream='http://ethe",
    Utf8.encode "rx.jabber.org/streams'><a/><b", Utf8.encode "/></stream:stream>", Utf8.encode " "]

theorem answers_whatever_the_reads_sharedPieces :
    let c := facing .stream 200 sharedPieces
    let asks := [.stanza, .header, .stanza, .stanza]
    (∀ data ∈ sharedPieces, IsRead data)
      ∧ ¬ Reader.byteOrderMark <:+: sharedPieces.flatten
      ∧ ((Reader.fresh .stream 200).pushAll sharedPieces).1.fault = none
      ∧ c.stanzaAnswers asks =
        [.ready { name := "a", ns := "" }, .ready { name := "b", ns := "" }, .failed .closed]
      ∧ c.headerAnswers asks = [.ready { id := some "s" }] := by
  intro c asks
  have reads : ∀ data ∈ sharedPieces, IsRead data := by decide +kernel
  have mark : ¬ Reader.byteOrderMark <:+: sharedPieces.flatten := by decide +kernel
  have fine : ((Reader.fresh .stream 200).pushAll sharedPieces).1.fault = none := by decide +kernel
  have events : ((Reader.fresh .stream 200).push sharedPieces.flatten).2 =
      [.opened { id := some "s" }, .stanza { name := "a", ns := "" },
        .stanza { name := "b", ns := "" }, .closed] := by decide +kernel
  obtain ⟨stanzas, headers, -⟩ :=
    answers_whatever_the_reads .stream 200 sharedPieces reads mark fine asks
  rw [events] at stanzas headers
  exact ⟨reads, mark, fine, stanzas, headers rfl⟩

/-- A stream of stanzas has those of the reads before the first that fails, in order, and then the
fault if there is one. Those that the failing read brought before its fault are given by later
calls, after the fault. All these are the stanzas that the reader finds. -/
theorem stanzas_before_failing_read (framing : Framing) (limit : Nat) (pieces : List Bytes)
    (reads : ∀ data ∈ pieces, IsRead data) :
    let c := facing framing limit pieces
    let heard := (Reader.fresh framing limit).hear pieces
    let late := heard.late.filterMap Event.stanza?
    ((Reader.fresh framing limit).pushAll pieces).2.filterMap Event.stanza? = heard.stanzas ++ late
      ∧ c.stanzas = (heard.stanzas, Hearing.outcome heard.failing)
      ∧ c.stanzaAnswers (List.replicate (heard.stanzas.length + (1 + late.length)) .stanza) =
        heard.stanzas.map .ready ++ .failed (Hearing.ending heard.failing) :: late.map .ready := by
  intro c heard late
  have owing := @owing_facing framing limit pieces reads
  refine ⟨?_, owing.drained, owing.answersAll⟩
  rw [← Reader.events_hear (Reader.Tells.fresh framing limit), List.filterMap_append]
  rfl

def spoiltPieces : List Bytes := [Utf8.encode "<a/>", Utf8.encode "<b/></c>"]

theorem stanzas_before_failing_read_spoiltPieces :
    (∀ data ∈ spoiltPieces, IsRead data)
      ∧ (facing .standalone 200 spoiltPieces).stanzas =
        ([{ name := "a", ns := "" }], .failed (.reader (.markup (.unopened "c"))))
      ∧ (facing .standalone 200 spoiltPieces).stanzaAnswers [.stanza, .stanza, .stanza] =
        [.ready { name := "a", ns := "" }, .failed (.reader (.markup (.unopened "c"))),
          .ready { name := "b", ns := "" }] := by
  have reads : ∀ data ∈ spoiltPieces, IsRead data := by decide +kernel
  have heard : (Reader.fresh .standalone 200).hear spoiltPieces =
      { events := [.stanza { name := "a", ns := "" }],
        failing := some (.markup (.unopened "c"), [.stanza { name := "b", ns := "" }]) } := by
    decide +kernel
  obtain ⟨-, stanzas, answers⟩ := stanzas_before_failing_read .standalone 200 spoiltPieces reads
  rw [heard] at stanzas answers
  exact ⟨reads, stanzas, answers⟩

/-- A stanza that the reader finds before its first fault may be missing: where both are in one
read, the stream ends with the fault and without the stanza. -/
theorem not_always_all_stanzas : ¬ ∀ (framing : Framing) (limit : Nat) (pieces : List Bytes),
    (∀ data ∈ pieces, IsRead data) → (facing framing limit pieces).stanzas =
      (((Reader.fresh framing limit).pushAll pieces).2.filterMap Event.stanza?,
        Hearing.outcome ((Reader.fresh framing limit).hear pieces).failing) := by
  intro always
  have reads : ∀ data ∈ [Utf8.encode "<a/></b>"], IsRead data := by decide +kernel
  have all := always .standalone 200 _ reads
  rw [(owing_facing reads).drained] at all
  have found : ((Reader.fresh .standalone 200).pushAll [Utf8.encode "<a/></b>"]).2 =
      [.stanza { name := "a", ns := "" }] := by decide +kernel
  have heard : ((Reader.fresh .standalone 200).hear [Utf8.encode "<a/></b>"]).events = [] := by
    decide +kernel
  rw [found, Hearing.stanzas, heard] at all
  cases (Prod.mk.inj all).1

end XmppStream.Connection
