import XmppStream.Proofs.Session.Delivery
import XmppStream.Proofs.Session.Frames

/-! Acknowledgements are exact. Once stream management is on, each request that is consumed is
answered once, with the number of the stanzas that came since then and before the request. What
waits in the backlog came earlier and is not counted, whenever it is handed out. -/

namespace XmppStream

def Ledger.acknowledgement (n : Nat) : Stanza :=
  { name := "a", ns := Namespace.management, attrs := [("h", toString (n % UInt32.size))] }

theorem Ledger.ackFrame_eq {l : Ledger} {n : Nat} (h : l.received = UInt32.ofNat n) :
    l.ackFrame = acknowledgement n := by
  rw [ackFrame, h, UInt32.toNat_ofNat']
  rfl

namespace Session

def countedIn (ts : List Taking) : Nat := Stanza.countedIn (ts.map Taking.stanza)

def Taking.answer? (n : Nat) : Taking → Option Stanza
  | frame s _ => if s.kind = .smRequest then some (Ledger.acknowledgement n) else none
  | _ => none

def answersFrom (n : Nat) (ts : List Taking) : List Stanza :=
  (ts.mapIdx fun i t => t.answer? (n + countedIn (ts.take i))).flatMap Option.toList

/-- The answers to the consumed requests: each counts the stanzas outside of stream management that
came before. -/
def answers (ts : List Taking) : List Stanza := answersFrom 0 ts

theorem countedIn_append (ts us : List Taking) :
    countedIn (ts ++ us) = countedIn ts + countedIn us := by
  unfold countedIn
  rw [List.map_append, Stanza.countedIn_append]

theorem countedIn_cons (t : Taking) (ts : List Taking) :
    countedIn (t :: ts) = countedIn [t] + countedIn ts := countedIn_append [t] ts

theorem answersFrom_cons (n : Nat) (t : Taking) (ts : List Taking) :
    answersFrom n (t :: ts) = (t.answer? n).toList ++ answersFrom (n + countedIn [t]) ts := by
  have later (i : Nat) : n + countedIn ((t :: ts).take (i + 1)) =
      n + countedIn [t] + countedIn (ts.take i) := by
    rw [List.take_succ_cons, countedIn_cons, Nat.add_assoc]
  unfold answersFrom
  rw [List.mapIdx_cons, List.flatMap_cons]
  simp only [later]
  rfl

theorem answersFrom_append (n : Nat) (ts us : List Taking) :
    answersFrom n (ts ++ us) = answersFrom n ts ++ answersFrom (n + countedIn ts) us := by
  induction ts generalizing n with
  | nil => rfl
  | cons t ts ih =>
    rw [List.cons_append, answersFrom_cons, answersFrom_cons, ih, countedIn_cons t ts,
      List.append_assoc, Nat.add_assoc]

/-- What is taken while stream management is on is counted, and requests among it are answered with
the count. -/
theorem Accounts.replies {on off : Option Ledger} {ts : List Taking} (h : Accounts on ts off)
    {l : Ledger} (ledger : on = some l) {n : Nat} (counted : l.received = UInt32.ofNat n) :
    (∃ l', off = some l' ∧ l'.received = UInt32.ofNat (n + countedIn ts))
      ∧ ts.filterMap Taking.reply? = answersFrom n ts := by
  -- On the takings; `n` counts what was taken before them since stream management is on.
  induction h generalizing l n with
  | nil => exact ⟨⟨l, ledger, counted⟩, rfl⟩
  | @cons a b c t ts change _ ih =>
    rw [countedIn_cons, answersFrom_cons, ← Nat.add_assoc]
    cases change with
    | @frame s l₀ management =>
      cases ledger
      have one : countedIn [.frame s l] = 0 := by
        change Stanza.countedIn [s] = 0
        rw [Stanza.countedIn, List.countP_singleton, management]
        rfl
      have received : (l.handle s).2.received = UInt32.ofNat (n + countedIn [.frame s l]) := by
        rw [one, Ledger.received_handle, counted]
        rfl
      obtain ⟨later, replies⟩ := ih rfl received
      refine ⟨later, ?_⟩
      have reply : (Taking.frame s l).reply? = (Taking.frame s l).answer? n := by
        rw [reply?_frame, Taking.answer?, Ledger.ackFrame_eq counted]
      rw [← replies, ← reply, List.filterMap_cons]
      cases (Taking.frame s l).reply? <;> rfl
    | @counted s l₀ other =>
      cases ledger
      have one : countedIn [.handedOut s] = 1 := by
        change Stanza.countedIn [s] = 1
        rw [Stanza.countedIn, List.countP_singleton, if_pos (by simpa using other)]
      have received : l.countReceived.received = UInt32.ofNat (n + countedIn [.handedOut s]) := by
        rw [one, UInt32.ofNat_add, ← counted]
        rfl
      exact ih rfl received
    | kept => cases ledger
    | enabled => cases ledger
    | refused => cases ledger
    | uncounted => cases ledger

/-- Stream management is on, over a transport that takes every write, and `n` stanzas were counted. -/
structure Counts (s : Session) (n : Nat) : Prop where
  works : s.connection.Works
  ledger : ∃ l, s.ledger = some l ∧ l.received = UInt32.ofNat n

theorem received_enter (stanza : Stanza) {s : Session} {l : Ledger} (on : s.ledger = some l) :
    ∃ l', (enter stanza s).2.ledger = some l' ∧ l'.received = l.received := by
  rw [enter, on]
  dsimp only
  split
  · exact ⟨l, on, rfl⟩
  · exact ⟨l.record stanza, rfl, rfl⟩

theorem asked?_eq_none {resume : Bool} {s : Session} {l : Ledger} (on : s.ledger = some l) :
    asked? resume s = none := by
  rw [asked?, on]
  exact if_neg fun may => Option.some_ne_none l may.1

theorem Counts.recv {s : Session} {n : Nat} (h : Counts s n) :
    Counts (Call.recv.perform s) (n + countedIn (Call.recv.takings s))
      ∧ (Call.recv.takings s).filterMap Taking.reply? = answersFrom n (Call.recv.takings s) := by
  have works := (sends_perform .recv h.works).works
  obtain ⟨l, on, counted⟩ := h.ledger
  rcases recv_cases s with ⟨stanza, backlog, -, first, nothing⟩ | ⟨-, fresh, taken⟩
  · rw [nothing]
    refine ⟨⟨works, l, ?_, counted⟩, rfl⟩
    rw [Call.perform, first]
    exact on
  · obtain ⟨ledger, replies⟩ := (took_recvFresh s).1.accounts.replies on counted
    rw [taken]
    refine ⟨⟨works, ?_⟩, replies⟩
    rw [Call.perform, fresh]
    exact ledger

theorem Counts.other {s : Session} {n : Nat} (h : Counts s n) {call : Call} (other : call ≠ .recv) :
    Counts (call.perform s) n ∧ call.takings s = [] := by
  have works := (sends_perform call h.works).works
  obtain ⟨l, on, counted⟩ := h.ledger
  cases call with
  | send stanza =>
    obtain ⟨c, sent, -⟩ := send_of_works h.works stanza
    obtain ⟨l', entered, same⟩ := received_enter stanza on
    refine ⟨⟨works, l', ?_, same.trans counted⟩, rfl⟩
    rw [Call.perform, sent]
    exact entered
  | recv => exact absurd rfl other
  | requestAck =>
    obtain ⟨c, requested, -⟩ := requestAck_of_works h.works
    refine ⟨⟨works, l, ?_, counted⟩, rfl⟩
    rw [Call.perform, requested]
    exact on
  | enable resume =>
    have nothing : (Call.enable resume).takings s = [] := by
      rw [Call.takings, asked?_eq_none on]
    have same : (Call.enable resume).perform s = s :=
      enable_eq_self fun may => Option.some_ne_none l (on.symm.trans may.1)
    rw [same]
    exact ⟨h, nothing⟩
  | arrive arrival => exact ⟨⟨works, l, on, counted⟩, rfl⟩

theorem Counts.perform {s : Session} {n : Nat} (h : Counts s n) (call : Call) :
    Counts (call.perform s) (n + countedIn (call.takings s)) := by
  by_cases receives : call = .recv
  · rw [receives]
    exact h.recv.1
  · obtain ⟨counts, nothing⟩ := h.other receives
    rw [nothing]
    exact counts

theorem recvTexts_cons (s : Session) (call : Call) (calls : List Call) :
    s.recvTexts (call :: calls) =
      (if call = .recv then s.connection.textsTo (call.perform s).connection else [])
        ++ (call.perform s).recvTexts calls := rfl

theorem Counts.recvTexts {s : Session} {n : Nat} (h : Counts s n) (calls : List Call) :
    s.recvTexts calls = (answersFrom n (s.takings calls)).map s.connection.written := by
  induction calls generalizing s n with
  | nil => rfl
  | cons call calls ih =>
    have sends := sends_perform call h.works
    rw [recvTexts_cons, takings_cons, answersFrom_append, List.map_append, ih (h.perform call),
      Connection.written_congr sends.defaultNs]
    congr 1
    by_cases receives : call = .recv
    · subst receives
      rw [if_pos rfl, sends.textsTo, ← h.recv.2, Call.frames]
    · rw [if_neg receives, (h.other receives).2]
      rfl

theorem awaitEnabled_of_enabled {s : Session} {answer : Stanza}
    (read : s.connection.recv.1 = .ready answer) (kind : answer.kind = .smEnabled) :
    awaitEnabled s =
      (.ready (), { s with connection := s.connection.recv.2, ledger := some {} }) := by
  have received : s.connection.recv = (.ready answer, s.connection.recv.2) := Prod.ext read rfl
  generalize s.connection.recv.2 = c at received ⊢
  rw [awaitEnabled, received]
  dsimp only
  rw [kind]

theorem awaitEnabled_of_other {s : Session} {stanza : Stanza}
    (read : s.connection.recv.1 = .ready stanza) (enabled : stanza.kind ≠ .smEnabled)
    (failed : stanza.kind ≠ .smFailed) :
    awaitEnabled s = awaitEnabled
      { s with connection := s.connection.recv.2, backlog := s.backlog ++ [stanza] } := by
  have received : s.connection.recv = (.ready stanza, s.connection.recv.2) := Prod.ext read rfl
  generalize s.connection.recv.2 = c at received ⊢
  rw [awaitEnabled, received]
  dsimp only
  split
  · next kind => exact absurd kind enabled
  · next kind => exact absurd kind failed
  · rfl

theorem awaitEnabled_eq_ready {s s' : Session} (h : awaitEnabled s = (.ready (), s')) :
    s'.ledger = some {} ∧ ∃ (kept : List Stanza) (answer : Stanza), answer.kind = .smEnabled
      ∧ s.awaitTakings = kept.map .kept ++ [.answer answer] := by
  fun_induction awaitEnabled s with
  | case1 => cases h
  | case2 => cases h
  | case3 s stanza c read kind =>
    cases h
    refine ⟨rfl, [], stanza, kind, ?_⟩
    rw [awaitTakings, read]
    exact if_pos (.inl kind)
  | case4 => cases h
  | case5 s stanza c read enabled failed ih =>
    obtain ⟨on, kept, answer, kind, taken⟩ := ih h
    refine ⟨on, stanza :: kept, answer, kind, ?_⟩
    rw [awaitTakings, read]
    dsimp only
    rw [if_neg (not_or.2 ⟨enabled, failed⟩), taken]
    rfl

theorem asked?_of_enabled {resume : Bool} {s s' : Session} (off : s.ledger = none)
    (h : enable resume s = (.ready (), s')) : ∃ asked, asked? resume s = some asked := by
  rw [enable_apply, off, if_neg (by decide)] at h
  split at h
  · next offers =>
    rw [asked?, if_pos ⟨off, offers⟩]
    split at h
    · next asked sent => exact ⟨asked, by rw [sent]⟩
    · cases h
    · cases h
  · cases h

/-- Once stream management is on, whatever is called and whatever arrives later: receiving writes
one answer for each request that it consumes and nothing else, in order. The answer carries the
number of the stanzas outside of stream management that came after the peer turned it on and before
that request; what came earlier is in the backlog and is not counted. -/
theorem recvTexts_eq_answers {s s' : Session} {resume : Bool} (works : s.connection.Works)
    (off : s.ledger = none) (on : enable resume s = (.ready (), s')) (calls : List Call) :
    ∃ kept answer, answer.kind = .smEnabled ∧ s'.backlog = s.backlog ++ kept
      ∧ s.arrivals calls = kept ++ answer :: ((s'.takings calls).map Taking.stanza
        ++ (s'.performAll calls).connection.unread)
      ∧ s'.recvTexts calls = (answers (s'.takings calls)).map s.connection.written := by
  obtain ⟨asked, waits⟩ := asked?_of_enabled off on
  have performed : (Call.enable resume).perform s = s' := congrArg Prod.snd on
  have asks := asks_of_asked? waits
  rw [asks.awaits] at on
  obtain ⟨ledger, kept, answer, kind, awaited⟩ := awaitEnabled_eq_ready on
  have taken : (Call.enable resume).takings s = kept.map .kept ++ [.answer answer] := by
    rw [Call.takings, waits]
    exact awaited
  have stanzas : (kept.map Taking.kept ++ [Taking.answer answer]).map Taking.stanza =
      kept ++ [answer] := by
    rw [List.map_append, List.map_map]
    exact congrArg (· ++ [answer]) (List.map_id kept)
  have passed : (kept.map Taking.kept ++ [Taking.answer answer]).filterMap Taking.passed? = kept := by
    rw [List.filterMap_append, List.filterMap_map]
    exact (List.append_nil _).trans List.filterMap_some
  have delivers := delivers_enable resume s
  have gives := delivers.gives (calls.filterMap Call.arrival?)
  have backlog := delivers.passed
  rw [taken, performed, stanzas] at gives
  rw [taken, performed, passed] at backlog
  have sends := sends_perform (.enable resume) works
  rw [performed] at sends
  -- From here on every stanza counts, and none did before.
  have counts : Counts s' 0 := ⟨sends.works, {}, ledger, rfl⟩
  refine ⟨kept, answer, kind, backlog.symm, ?_, ?_⟩
  · rw [← (s'.arrivals_eq calls).1]
    exact gives.trans (List.append_assoc kept [answer] _)
  · rw [counts.recvTexts, Connection.written_congr sends.defaultNs]
    rfl

def offered : Session where
  connection := {
    wire := {
      arrivals := [.bytes (Utf8.encode
        "<presence/><enabled xmlns='urn:xmpp:sm:3'/><message/><r xmlns='urn:xmpp:sm:3'/>")] }
    reader := { framing := .standalone, limit := 200 } }
  features := {
    name := "features"
    ns := Namespace.stream
    children := [{ name := "sm", ns := Namespace.management }] }
  policy := {}

theorem enable_offered : (enable false offered).1 = .ready () := by
  let asked : Session := (connected (Connection.send (Ledger.enableFrame false)) offered).2
  let kept : Session := { asked with
    connection := asked.connection.recv.2
    backlog := asked.backlog ++ [{ name := "presence" }] }
  have off : ¬ offered.ledger.isSome := by decide
  have offers : offered.offersManagement := by decide
  have first : asked.connection.recv.1 = .ready { name := "presence" } := by decide +kernel
  have second : kept.connection.recv.1 =
      .ready { name := "enabled", ns := Namespace.management } := by decide +kernel
  rw [enable_apply, if_neg off, if_pos offers]
  change (awaitEnabled asked).1 = _
  rw [awaitEnabled_of_other first (by decide) (by decide)]
  exact congrArg Prod.fst (awaitEnabled_of_enabled second (by decide))

theorem recvTexts_offered :
    offered.connection.Works ∧ offered.ledger = none
      ∧ enable false offered = (.ready (), (enable false offered).2)
      ∧ ∃ kept answer, answer.kind = .smEnabled
        ∧ (enable false offered).2.backlog = offered.backlog ++ kept
        ∧ offered.arrivals [.recv, .requestAck, .recv, .recv] = kept ++ answer ::
          (((enable false offered).2.takings [.recv, .requestAck, .recv, .recv]).map Taking.stanza
            ++ ((enable false offered).2.performAll [.recv, .requestAck, .recv, .recv]).connection.unread)
        ∧ (enable false offered).2.recvTexts [.recv, .requestAck, .recv, .recv] =
          (answers ((enable false offered).2.takings [.recv, .requestAck, .recv, .recv])).map
            offered.connection.written := by
  have works : offered.connection.Works := fun _ => rfl
  have on : enable false offered = (.ready (), (enable false offered).2) :=
    Prod.ext enable_offered rfl
  exact ⟨works, rfl, on, recvTexts_eq_answers works rfl on _⟩

end Session
end XmppStream
