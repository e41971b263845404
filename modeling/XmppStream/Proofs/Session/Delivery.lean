import XmppStream.Proofs.Session.Calls

/-! A session loses, repeats and reorders no stanza. Of those that arrive it consumes the answers to
its requests for stream management and, once this is on, the frames that belong to it; all others
are handed out in the order of their arrival, those of the backlog first. -/

namespace XmppStream.Session

def fresh (connection : Connection) (features : Stanza) (policy : AckPolicy) : Session :=
  { connection, features, policy }

def arrivals (s : Session) (calls : List Call) : List Stanza :=
  (s.connection.arrive (calls.filterMap Call.arrival?)).unread

def takings (s : Session) (calls : List Call) : List Taking :=
  (s.history calls).flatMap fun (call, s) => call.takings s

def returned (s : Session) (calls : List Call) : List Stanza :=
  (s.history calls).filterMap fun (call, s) => call.returned? s

/-- When a call may consume a stanza. -/
def Taking.Due (call : Call) (s : Session) : Taking → Prop
  | kept _ => True
  | answer stanza => (∃ resume, call = .enable resume) ∧ s.ledger = none
      ∧ (stanza.kind = .smEnabled ∨ stanza.kind = .smFailed)
  | frame stanza _ => call = .recv ∧ s.ledger.isSome ∧ stanza.isManagement
  | handedOut _ => True

structure Keeps (s s' : Session) : Prop where
  gives : s.connection.Gives [] s'.connection
  backlog : s'.backlog = s.backlog

namespace Keeps

variable {s s' s'' : Session}

theorem refl (s : Session) : Keeps s s := ⟨.refl _, rfl⟩

theorem trans (h : Keeps s s') (h' : Keeps s' s'') : Keeps s s'' :=
  ⟨h.gives.trans h'.gives, h'.backlog.trans h.backlog⟩

end Keeps

theorem keeps_connected (frame : Stanza) (s : Session) :
    Keeps s (connected (Connection.send frame) s).2 := ⟨s.connection.gives_send frame, rfl⟩

theorem keeps_enter (stanza : Stanza) (s : Session) : Keeps s (enter stanza s).2 := by
  rw [enter]
  split
  · exact .refl s
  · split <;> exact ⟨.refl _, rfl⟩

theorem keeps_send (stanza : Stanza) (s : Session) : Keeps s (send stanza s).2 := by
  refine Act.bind_keeps .trans (keeps_connected stanza s) fun _ s' => ?_
  refine Act.bind_keeps .trans (keeps_enter stanza s') fun due s'' => ?_
  cases due with
  | true => exact keeps_connected _ s''
  | false => exact .refl s''

theorem keeps_requestAck (s : Session) : Keeps s (requestAck s).2 := by
  refine Act.bind_keeps .trans (.refl s) fun off s' => ?_
  cases off with
  | true => exact .refl s'
  | false => exact keeps_connected _ s'

theorem keeps_enable {resume : Bool} {s : Session} (h : asked? resume s = none) :
    Keeps s (enable resume s).2 := by
  rw [enable_apply]
  split
  · exact .refl s
  next off =>
  split
  · next offers =>
    rw [asked?, if_pos ⟨by simpa using off, offers⟩] at h
    have keeps := keeps_connected (Ledger.enableFrame resume) s
    generalize connected (Connection.send (Ledger.enableFrame resume)) s = sent at h keeps ⊢
    obtain ⟨outcome, unasked⟩ := sent
    cases outcome with
    | ready => cases h
    | failed why => exact keeps
    | waiting => exact keeps
  · exact .refl s

theorem due_of_mem_awaitTakings {s : Session} {t : Taking} (h : t ∈ awaitTakings s)
    {before : Session} (off : before.ledger = none) (resume : Bool) :
    t.Due (.enable resume) before := by
  fun_induction awaitTakings s with
  | case1 s stanza c read answers =>
    rw [List.mem_singleton] at h
    rw [h]
    exact ⟨⟨resume, rfl⟩, off, answers⟩
  | case2 s stanza c read other ih =>
    rcases List.mem_cons.1 h with rfl | later
    · trivial
    · exact ih later
  | case3 => cases h

theorem due_of_mem_recvTakings {s : Session} {t : Taking} (h : t ∈ recvTakings s) :
    t.Due .recv s := by
  fun_induction recvTakings s with
  | case1 s stanza c read off =>
    rw [List.mem_singleton] at h
    rw [h]
    trivial
  | case2 s stanza c read l on frame managed dealt ih =>
    rcases List.mem_cons.1 h with rfl | later
    · exact ⟨rfl, by rw [on]; rfl, frame⟩
    · have due := ih later
      cases t with
      | answer =>
        obtain ⟨⟨resume, other⟩, -⟩ := due
        cases other
      | frame => exact ⟨rfl, by rw [on]; rfl, due.2.2⟩
      | _ => trivial
  | case3 s stanza c read l on frame dealt =>
    rw [List.mem_singleton] at h
    rw [h]
    exact ⟨rfl, by rw [on]; rfl, frame⟩
  | case4 s stanza c read l on other =>
    rw [List.mem_singleton] at h
    rw [h]
    trivial
  | case5 => cases h

theorem due_of_mem_takings {call : Call} {s : Session} {t : Taking} (h : t ∈ call.takings s) :
    t.Due call s := by
  cases call with
  | recv =>
    rw [Call.takings] at h
    split at h
    · exact due_of_mem_recvTakings h
    · cases h
  | enable resume =>
    rw [Call.takings] at h
    split at h
    · next asked waits =>
      exact due_of_mem_awaitTakings h (asks_of_asked? waits).off resume
    · cases h
  | _ => cases h

/-- What a call takes off the connection, it hands out, keeps for later, or consumes. -/
structure Call.Delivers (call : Call) (s : Session) : Prop where
  gives : s.connection.Gives ((call.takings s).map Taking.stanza) (call.perform s).connection
  passed : s.backlog ++ (call.takings s).filterMap Taking.passed? =
    (call.returned? s).toList ++ (call.perform s).backlog

theorem Keeps.delivers {call : Call} {s : Session} (h : Keeps s (call.perform s))
    (nothing : call.takings s = []) (quiet : call.returned? s = none) : call.Delivers s := by
  constructor
  · rw [nothing]
    exact h.gives
  · rw [nothing, quiet, h.backlog]
    exact List.append_nil _

theorem delivers_recv (s : Session) : Call.recv.Delivers s := by
  rcases recv_cases s with ⟨stanza, backlog, waiting, first, nothing⟩ | ⟨empty, fresh, taken⟩
  · constructor
    · rw [nothing, Call.perform, first]
      exact .refl _
    · rw [nothing, Call.returned?, Call.perform, first, waiting]
      exact List.append_nil _
  · obtain ⟨took, handed⟩ := took_recvFresh s
    constructor
    · rw [taken, Call.perform, fresh]
      exact took.gives
    · rw [taken, Call.returned?, Call.perform, fresh, took.backlog, kept_recvTakings, empty,
        List.append_nil, List.append_nil]
      exact handed

theorem delivers_enable (resume : Bool) (s : Session) : (Call.enable resume).Delivers s := by
  cases waits : s.asked? resume with
  | none =>
    have nothing : (Call.enable resume).takings s = [] := by
      rw [Call.takings, waits]
    exact (keeps_enable waits).delivers nothing rfl
  | some asked =>
    have asks := asks_of_asked? waits
    have keeps := keeps_connected (Ledger.enableFrame resume) s
    rw [asks.sent] at keeps
    have taken : (Call.enable resume).takings s = asked.awaitTakings := by
      rw [Call.takings, waits]
    have took := took_awaitEnabled asks.waits
    constructor
    · rw [taken, Call.perform, asks.awaits]
      exact keeps.gives.trans took.gives
    · rw [taken, Call.perform, asks.awaits, took.backlog, passed_awaitTakings, keeps.backlog]
      rfl

theorem Call.delivers {call : Call} (h : call.arrival? = none) (s : Session) : call.Delivers s := by
  cases call with
  | send stanza => exact (keeps_send stanza s).delivers rfl rfl
  | recv => exact delivers_recv s
  | requestAck => exact (keeps_requestAck s).delivers rfl rfl
  | enable resume => exact delivers_enable resume s
  | arrive arrival => cases h

theorem takings_cons (s : Session) (call : Call) (calls : List Call) :
    s.takings (call :: calls) = call.takings s ++ (call.perform s).takings calls := rfl

theorem returned_cons (s : Session) (call : Call) (calls : List Call) :
    s.returned (call :: calls) = (call.returned? s).toList ++ (call.perform s).returned calls := by
  unfold returned
  rw [history, List.filterMap_cons]
  dsimp only
  cases call.returned? s <;> rfl

/-- What arrives is what is taken and then what is left, and all that is not consumed is handed out
or waits in the backlog. -/
theorem arrivals_eq (s : Session) (calls : List Call) :
    s.arrivals calls = (s.takings calls).map Taking.stanza ++ (s.performAll calls).connection.unread
      ∧ s.backlog ++ (s.takings calls).filterMap Taking.passed? =
        s.returned calls ++ (s.performAll calls).backlog := by
  induction calls generalizing s with
  | nil => exact ⟨congrArg Connection.unread s.connection.arrive_nil, List.append_nil _⟩
  | cons call calls ih =>
    obtain ⟨later, passed⟩ := ih (call.perform s)
    rw [takings_cons, returned_cons, performAll, List.map_append, List.filterMap_append,
      List.append_assoc, List.append_assoc, ← later, ← passed, ← List.append_assoc]
    -- A call takes from what is there; an arrival only adds to it.
    cases comes : call.arrival? with
    | none =>
      have step := Call.delivers comes s
      have same : s.arrivals (call :: calls) = s.arrivals calls := by
        rw [arrivals, List.filterMap_cons_none comes, arrivals]
      refine ⟨same.trans (step.gives _), ?_⟩
      rw [step.passed, List.append_assoc]
    | some arrival =>
      cases call with
      | arrive arrival =>
        constructor
        · exact congrArg Connection.unread (s.connection.arrive_arrive [arrival] _).symm
        · change s.backlog ++ [] ++ _ = s.backlog ++ _
          rw [List.append_nil]
      | _ => cases comes

/-- Whatever calls are made on a session in any order, and whatever comes between them: the stanzas
handed out, then the backlog and then what the connection has not handed out are the stanzas that
arrived, in order and each once, without those consumed. Consumed are answers to a request for
stream management that waits for one and, while this is on, its frames. -/
theorem delivered_in_order (connection : Connection) (features : Stanza) (policy : AckPolicy)
    (calls : List Call) :
    let s := fresh connection features policy
    s.arrivals calls = (s.takings calls).map Taking.stanza ++ (s.performAll calls).connection.unread
      ∧ s.returned calls ++ (s.performAll calls).backlog =
        (s.takings calls).filterMap Taking.passed?
      ∧ ∀ made ∈ s.history calls, ∀ t ∈ made.1.takings made.2, t.Due made.1 made.2 := by
  intro s
  obtain ⟨taken, passed⟩ := s.arrivals_eq calls
  refine ⟨taken, passed.symm, ?_⟩
  intro made _ t mem
  exact due_of_mem_takings mem

end XmppStream.Session
