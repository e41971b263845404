import XmppStream.Proofs.Session.Answers

/-! Frames of stream management in the backlog. The backlog is handed out as it is; only what is
read once stream management is on is looked through for frames. -/

namespace XmppStream.Session

/-- All that is done with a session: a call, a change of the accounts from outside, or a change on
the transport. -/
inductive Use where
  | call (call : Call)
  | enableFrom (options : ManagementOptions)
  | release
  | account (change : Ledger → Ledger)
  | transport (change : Wire → Wire)

namespace Use

def perform (use : Use) (s : Session) : Session :=
  match use with
  | call made => made.perform s
  | enableFrom options => (Session.enableFrom options s).2
  | release => s.release.2
  | account change => { s with ledger := s.ledger.map change }
  | transport change => s.setConnection { s.connection with wire := change s.connection.wire }

def returned? (use : Use) (s : Session) : Option Stanza :=
  match use with
  | call made => made.returned? s
  | _ => none

end Use

def received (s : Session) : List Use → List Stanza
  | [] => []
  | use :: uses => (use.returned? s).toList ++ (use.perform s).received uses

/-- What a session with stream management on hands out: what waits in the backlog as it is, and then
only what is no frame. -/
inductive HandsOut (s s' : Session) : Option Stanza → Prop where
  | nothing (backlog : s'.backlog = s.backlog) : HandsOut s s' none
  | waiting {x : Stanza} (backlog : s.backlog = x :: s'.backlog) : HandsOut s s' (some x)
  | fresh {x : Stanza} (empty : s.backlog = []) (still : s'.backlog = [])
      (other : ¬ x.isManagement) : HandsOut s s' (some x)

def StaysOn (s s' : Session) : Prop := s.ledger.isSome → s'.ledger.isSome

section
variable {s : Session}

theorem StaysOn.trans {s' s'' : Session} (h : StaysOn s s') (h' : StaysOn s' s'') :
    StaysOn s s'' := h' ∘ h

theorem staysOn_enter (stanza : Stanza) (s : Session) : StaysOn s (enter stanza s).2 := by
  intro on
  obtain ⟨l, on⟩ := Option.isSome_iff_exists.1 on
  obtain ⟨l', entered, -⟩ := received_enter stanza on
  rw [entered]
  rfl

theorem staysOn_send (stanza : Stanza) (s : Session) : StaysOn s (send stanza s).2 := by
  refine Act.bind_keeps .trans (fun on => on) fun _ s' => ?_
  refine Act.bind_keeps .trans (staysOn_enter stanza s') fun due s'' => ?_
  cases due <;> exact fun on => on

theorem staysOn_requestAck (s : Session) : StaysOn s (requestAck s).2 := by
  refine Act.bind_keeps .trans (fun on => on) fun off s' => ?_
  cases off <;> exact fun on => on

theorem enable_of_on (on : s.ledger.isSome) (resume : Bool) : enable resume s = (.ready (), s) := by
  rw [enable_apply, if_pos on]

theorem enableFrom_of_on (on : s.ledger.isSome) (options : ManagementOptions) :
    (enableFrom options s).2 = s := by
  unfold enableFrom
  split_ifs
  · rfl
  · rw [Act.bind_apply, Act.andThen, Act.look]
    dsimp only
    split_ifs
    · rfl
    · rw [Act.bind_apply, Act.andThen, enable_of_on on]
      rfl

theorem Accounts.others {l l' : Option Ledger} {ts : List Taking} (h : Accounts l ts l')
    (on : l.isSome) : l'.isSome ∧ ∀ x ∈ ts.filterMap Taking.passed?, ¬ x.isManagement := by
  induction h with
  | nil => exact ⟨on, nofun⟩
  | cons change _ ih =>
    cases change with
    | frame => exact ih rfl
    | counted other =>
      obtain ⟨on', others⟩ := ih rfl
      exact ⟨on', List.forall_mem_cons.2 ⟨other, others⟩⟩
    | kept => cases on
    | enabled => cases on
    | refused => cases on
    | uncounted => cases on

theorem handsOut_recv (on : s.ledger.isSome) :
    (recv s).2.ledger.isSome ∧ HandsOut s (recv s).2 (recv s).1.value? := by
  rcases recv_cases s with ⟨x, backlog, waiting, first, -⟩ | ⟨empty, fresh, -⟩
  · rw [first]
    exact ⟨on, .waiting waiting⟩
  · obtain ⟨took, handed⟩ := took_recvFresh s
    obtain ⟨on', others⟩ := took.accounts.others on
    have still := took.backlog
    rw [kept_recvTakings, List.append_nil] at still
    rw [handed] at others
    rw [fresh]
    refine ⟨on', ?_⟩
    cases given : s.recvFresh.1.value? with
    | none => exact .nothing still
    | some x =>
      rw [given] at others
      exact .fresh empty (still.trans empty) (others x (List.mem_singleton_self x))

theorem Use.handsOut (use : Use) (on : s.ledger.isSome) :
    (use.perform s).ledger.isSome ∧ HandsOut s (use.perform s) (use.returned? s) := by
  cases use with
  | call made =>
    cases made with
    | send stanza => exact ⟨staysOn_send stanza s on, .nothing (keeps_send stanza s).backlog⟩
    | recv => exact handsOut_recv on
    | requestAck => exact ⟨staysOn_requestAck s on, .nothing (keeps_requestAck s).backlog⟩
    | enable resume =>
      have same : (Call.enable resume).perform s = s := congrArg Prod.snd (enable_of_on on resume)
      rw [perform, same]
      exact ⟨on, .nothing rfl⟩
    | arrive arrival => exact ⟨on, .nothing rfl⟩
  | enableFrom options =>
    rw [perform, enableFrom_of_on on]
    exact ⟨on, .nothing rfl⟩
  | release =>
    obtain ⟨l, known⟩ := Option.isSome_iff_exists.1 on
    have left : s.release.2 = { s with ledger := some l.release.2 } := by rw [Session.release, known]
    rw [perform, left]
    exact ⟨rfl, .nothing rfl⟩
  | account change => exact ⟨by rw [perform, Option.isSome_map]; exact on, .nothing rfl⟩
  | transport change => exact ⟨on, .nothing rfl⟩

/-- However a session is used, the backlog is what comes first, and no frame comes after it. -/
theorem received_of_on (on : s.ledger.isSome) (uses : List Use) :
    (s.received uses).take s.backlog.length <+: s.backlog
      ∧ ∀ x ∈ (s.received uses).drop s.backlog.length, ¬ x.isManagement := by
  induction uses generalizing s with
  | nil =>
    rw [received, List.take_nil, List.drop_nil]
    exact ⟨List.nil_prefix, nofun⟩
  | cons use uses ih =>
    obtain ⟨on', given⟩ := use.handsOut on
    obtain ⟨front, later⟩ := ih on'
    rw [received]
    generalize use.returned? s = x at given
    generalize use.perform s = s' at given front later
    -- A use hands out nothing, the front of the backlog, or a fresh stanza once that is empty.
    cases given with
    | nothing backlog =>
      rw [backlog] at front later
      exact ⟨front, later⟩
    | waiting backlog =>
      rw [backlog]
      exact ⟨List.cons_prefix_cons.2 ⟨rfl, front⟩, later⟩
    | fresh empty still other =>
      rw [empty]
      rw [still] at later
      exact ⟨List.nil_prefix, List.forall_mem_cons.2 ⟨other, later⟩⟩

theorem received_backlog (s : Session) :
    s.received (List.replicate s.backlog.length (.call .recv)) = s.backlog := by
  obtain ⟨backlog, waiting⟩ : ∃ backlog, s.backlog = backlog := ⟨_, rfl⟩
  rw [waiting]
  induction backlog generalizing s with
  | nil => rfl
  | cons x backlog ih =>
    have first : recv s = (.ready x, { s with backlog }) := by
      unfold recv
      rw [waiting]
    have given : (Use.call .recv).returned? s = some x := congrArg (·.1.value?) first
    have left : (Use.call .recv).perform s = { s with backlog } := congrArg Prod.snd first
    rw [List.length_cons, List.replicate_succ, received, given, left, ih _ rfl]
    rfl

theorem on_of_enabled {resume : Bool} (h : (enable resume s).1 = .ready ()) :
    (enable resume s).2.ledger.isSome := by
  cases known : s.ledger with
  | some l =>
    have on : s.ledger.isSome := by rw [known]; rfl
    rw [enable_of_on on]
    exact on
  | none =>
    have ready : enable resume s = (.ready (), (enable resume s).2) := Prod.ext h rfl
    obtain ⟨asked, waits⟩ := asked?_of_enabled known ready
    rw [(asks_of_asked? waits).awaits] at ready ⊢
    rw [(awaitEnabled_eq_ready ready).1]
    rfl

/-- Once stream management was turned on, whatever is done with the session and whatever arrives:
frames of stream management are handed out only from the backlog, which comes first. So none is
handed out, ever, exactly if none waited there. What waited is the backlog of before and what came
before the peer turned stream management on. -/
theorem frames_only_from_backlog {s : Session} {resume : Bool}
    (enabled : (enable resume s).1 = .ready ()) :
    let on := (enable resume s).2
    (∀ uses, (on.received uses).take on.backlog.length <+: on.backlog
        ∧ ∀ x ∈ (on.received uses).drop on.backlog.length, ¬ x.isManagement)
      ∧ ((∀ uses, ∀ x ∈ on.received uses, ¬ x.isManagement) ↔ ∀ x ∈ on.backlog, ¬ x.isManagement)
      ∧ on.backlog = s.backlog ++ ((Call.enable resume).takings s).filterMap Taking.passed? := by
  intro on
  have still : on.ledger.isSome := on_of_enabled enabled
  refine ⟨received_of_on still, ⟨fun never => ?_, fun clean uses x given => ?_⟩,
    (delivers_enable resume s).passed.symm⟩
  · rw [← received_backlog on]
    exact never _
  · obtain ⟨front, later⟩ := received_of_on still uses
    rw [← List.take_append_drop on.backlog.length (on.received uses)] at given
    rcases List.mem_append.1 given with early | late
    · exact clean x (front.subset early)
    · exact later x late

end

def early : Session := offered.setConnection {
  offered.connection with
  wire := {
    arrivals := [.bytes (Utf8.encode
      "<a xmlns='urn:xmpp:sm:3' h='0'/><enabled xmlns='urn:xmpp:sm:3'/>")] } }

def earlyFrame : Stanza := Ledger.acknowledgement 0

theorem enable_early : (enable false early).1 = .ready ()
    ∧ (enable false early).2.backlog = [earlyFrame] := by
  let asked : Session := (connected (Connection.send (Ledger.enableFrame false)) early).2
  let kept : Session := { asked with
    connection := asked.connection.recv.2
    backlog := asked.backlog ++ [earlyFrame] }
  have off : ¬ early.ledger.isSome := by decide
  have offers : early.offersManagement := by decide
  have first : asked.connection.recv.1 = .ready earlyFrame := by decide +kernel
  have second : kept.connection.recv.1 =
      .ready { name := "enabled", ns := Namespace.management } := by decide +kernel
  have waits : enable false early = awaitEnabled asked := by
    rw [enable_apply, if_neg off, if_pos offers]
    rfl
  rw [waits, awaitEnabled_of_other first (by decide) (by decide),
    awaitEnabled_of_enabled second (by decide)]
  exact ⟨rfl, rfl⟩

theorem frames_only_from_backlog_early :
    (enable false early).1 = .ready ()
      ∧ ¬ ∀ uses, ∀ x ∈ (enable false early).2.received uses, ¬ x.isManagement := by
  obtain ⟨enabled, backlog⟩ := enable_early
  obtain ⟨-, clean, -⟩ := frames_only_from_backlog enabled
  refine ⟨enabled, ?_⟩
  rw [clean, backlog]
  decide

/-- A frame that came before stream management was on is handed out when it is on. -/
theorem not_always_without_frames : ¬ ∀ (s : Session) (resume : Bool) (uses : List Use),
    (enable resume s).1 = .ready () →
      ∀ x ∈ (enable resume s).2.received uses, ¬ x.isManagement := by
  intro always
  obtain ⟨enabled, backlog⟩ := enable_early
  have given : (enable false early).2.received [.call .recv] = [earlyFrame] := by
    have all := received_backlog (enable false early).2
    rw [backlog] at all
    exact all
  have never := always early false [.call .recv] enabled
  rw [given] at never
  exact never earlyFrame (List.mem_singleton_self _) (by decide)

end XmppStream.Session
