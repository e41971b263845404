import XmppStream.Proofs.Connection.Frames
import XmppStream.Session.Basic

/-! Calls on a session in any order, while stanzas arrive. Each stanza that a call takes off the
connection is told apart by what becomes of it, and the accounts follow from that. -/

namespace XmppStream.Session

inductive Call where
  | send (stanza : Stanza)
  | recv
  | requestAck
  | enable (resume : Bool)
  | arrive (arrival : Arrival)
deriving DecidableEq

/-- A stanza taken off the connection, by what becomes of it. -/
inductive Taking where
  /-- Put into the backlog while an answer is waited for. -/
  | kept (stanza : Stanza)
  /-- The answer that was waited for. -/
  | answer (stanza : Stanza)
  /-- A frame of stream management, and the ledger that it is dealt with on. -/
  | frame (stanza : Stanza) (ledger : Ledger)
  | handedOut (stanza : Stanza)
deriving DecidableEq

namespace Taking

def stanza : Taking → Stanza
  | kept s => s
  | answer s => s
  | frame s _ => s
  | handedOut s => s

def kept? : Taking → Option Stanza
  | kept s => some s
  | _ => none

def passed? : Taking → Option Stanza
  | kept s => some s
  | handedOut s => some s
  | _ => none

def reply? : Taking → Option Stanza
  | frame s l =>
    match (l.handle s).1 with
    | .ok reply => reply
    | .error _ => none
  | _ => none

end Taking

def awaitTakings (s : Session) : List Taking :=
  match _h : s.connection.recv with
  | (.ready stanza, c) =>
    if stanza.kind = .smEnabled ∨ stanza.kind = .smFailed then [.answer stanza]
    else .kept stanza :: awaitTakings { s with connection := c, backlog := s.backlog ++ [stanza] }
  | _ => []
termination_by s.connection.remaining
decreasing_by exact Connection.remaining_of_recv _h

def recvTakings (s : Session) : List Taking :=
  match _h : s.connection.recv with
  | (.ready stanza, c) =>
    match s.ledger with
    | none => [.handedOut stanza]
    | some l =>
      if stanza.isManagement then
        match _h' : manage stanza l (s.setConnection c) with
        | (.ready (), managed) => .frame stanza l :: recvTakings managed
        | _ => [.frame stanza l]
      else [.handedOut stanza]
  | _ => []
termination_by s.connection.remaining
decreasing_by
  rw [remaining_of_manage _h']
  exact Connection.remaining_of_recv _h

def asked? (resume : Bool) (s : Session) : Option Session :=
  if s.ledger = none ∧ s.offersManagement then
    match connected (Connection.send (Ledger.enableFrame resume)) s with
    | (.ready (), asked) => some asked
    | _ => none
  else none

namespace Call

def perform (call : Call) (s : Session) : Session :=
  match call with
  | send stanza => (Session.send stanza s).2
  | recv => (Session.recv s).2
  | requestAck => (Session.requestAck s).2
  | enable resume => (Session.enable resume s).2
  | arrive arrival => s.setConnection (s.connection.arrive [arrival])

def returned? (call : Call) (s : Session) : Option Stanza :=
  match call with
  | recv => (Session.recv s).1.value?
  | _ => none

def arrival? : Call → Option Arrival
  | arrive arrival => some arrival
  | _ => none

def takings (call : Call) (s : Session) : List Taking :=
  match call with
  | recv => if s.backlog = [] then recvTakings s else []
  | enable resume =>
    match s.asked? resume with
    | some asked => awaitTakings asked
    | none => []
  | _ => []

end Call

def performAll (s : Session) : List Call → Session
  | [] => s
  | call :: calls => performAll (call.perform s) calls

def history (s : Session) : List Call → List (Call × Session)
  | [] => []
  | call :: calls => (call, s) :: history (call.perform s) calls

/-- What one taking does to the accounts, with all that it takes for it to happen. -/
inductive Taking.Changes : Option Ledger → Taking → Option Ledger → Prop where
  | kept {s : Stanza} : s.kind ≠ .smEnabled → s.kind ≠ .smFailed → Changes none (.kept s) none
  | enabled {s : Stanza} : s.kind = .smEnabled → Changes none (.answer s) (some {})
  | refused {s : Stanza} : s.kind = .smFailed → Changes none (.answer s) none
  | frame {s : Stanza} {l : Ledger} : s.isManagement →
      Changes (some l) (.frame s l) (some (l.handle s).2)
  | counted {s : Stanza} {l : Ledger} : ¬ s.isManagement →
      Changes (some l) (.handedOut s) (some l.countReceived)
  | uncounted {s : Stanza} : Changes none (.handedOut s) none

/-- What takings in order do to the accounts. -/
inductive Accounts : Option Ledger → List Taking → Option Ledger → Prop where
  | nil {l : Option Ledger} : Accounts l [] l
  | cons {l l' l'' : Option Ledger} {t : Taking} {ts : List Taking} :
      t.Changes l l' → Accounts l' ts l'' → Accounts l (t :: ts) l''

theorem Accounts.append {l l' l'' : Option Ledger} {ts us : List Taking} (h : Accounts l ts l')
    (h' : Accounts l' us l'') : Accounts l (ts ++ us) l'' := by
  induction h with
  | nil => exact h'
  | cons change _ ih => exact .cons change (ih h')

/-- From `s` to `s'` the session takes `ts` off the connection, and does nothing else. -/
structure Took (s : Session) (ts : List Taking) (s' : Session) : Prop where
  gives : s.connection.Gives (ts.map Taking.stanza) s'.connection
  backlog : s'.backlog = s.backlog ++ ts.filterMap Taking.kept?
  accounts : Accounts s.ledger ts s'.ledger
  policy : s'.policy = s.policy
  sends : s.connection.Works → s.connection.Sends (ts.filterMap Taking.reply?) s'.connection

namespace Took

variable {s s' s'' : Session} {ts us : List Taking}

theorem trans (h : Took s ts s') (h' : Took s' us s'') : Took s (ts ++ us) s'' where
  gives := by
    rw [List.map_append]
    exact h.gives.trans h'.gives
  backlog := by rw [h'.backlog, h.backlog, List.filterMap_append, List.append_assoc]
  accounts := h.accounts.append h'.accounts
  policy := h'.policy.trans h.policy
  sends works := by
    have first := h.sends works
    rw [List.filterMap_append]
    exact first.trans (h'.sends first.works)

theorem nothing {c : Connection} (h : s.connection.recv.1.value? = none)
    (left : s.connection.recv.2 = c) : Took s [] (s.setConnection c) where
  gives := by
    have read := s.connection.gives_recv
    rw [h, left] at read
    exact read
  backlog := (List.append_nil _).symm
  accounts := .nil
  policy := rfl
  sends works := by
    have read := Connection.sends_recv works
    rw [left] at read
    exact read

theorem of_recv {t : Taking} {c : Connection} {stanza : Stanza}
    (read : s.connection.recv = (.ready stanza, c)) (taken : t.stanza = stanza)
    (change : t.Changes s.ledger s'.ledger) (backlog : s'.backlog = s.backlog ++ t.kept?.toList)
    (policy : s'.policy = s.policy) (gives : c.Gives [] s'.connection)
    (sends : c.Works → c.Sends t.reply?.toList s'.connection) : Took s [t] s' where
  gives := by
    have given := s.connection.gives_recv
    rw [read] at given
    rw [List.map_singleton, taken]
    exact given.trans gives
  backlog := by
    rw [backlog, List.filterMap_cons]
    cases t.kept? <;> rfl
  accounts := .cons change .nil
  policy := policy
  sends works := by
    have silent := Connection.sends_recv works
    rw [read] at silent
    have said := silent.trans (sends silent.works)
    rw [List.filterMap_cons]
    cases known : t.reply? <;> rw [known] at said <;> exact said

theorem silent {t : Taking} {c : Connection} {stanza : Stanza}
    (read : s.connection.recv = (.ready stanza, c)) (taken : t.stanza = stanza)
    {l : Option Ledger} (change : t.Changes s.ledger l) (consumed : t.kept? = none)
    (silent : t.reply? = none) : Took s [t] { s with connection := c, ledger := l } := by
  refine .of_recv read taken change ?_ rfl (.refl c) ?_
  · rw [consumed]
    exact (List.append_nil _).symm
  · intro works
    rw [silent]
    exact .refl works

end Took

theorem took_manage {s : Session} {l : Ledger} {stanza : Stanza} {c : Connection}
    (read : s.connection.recv = (.ready stanza, c)) (on : s.ledger = some l)
    (frame : stanza.isManagement) :
    Took s [.frame stanza l] (manage stanza l (s.setConnection c)).2 := by
  have change : (Taking.frame stanza l).Changes s.ledger (some (l.handle stanza).2) := by
    rw [on]
    exact .frame frame
  rw [manage]
  split
  · next why l' handled =>
    have reply : (Taking.frame stanza l).reply? = none := by
      rw [Taking.reply?, handled]
    rw [handled] at change
    exact .silent read rfl change rfl reply
  · next l' handled =>
    have reply : (Taking.frame stanza l).reply? = none := by
      rw [Taking.reply?, handled]
    rw [handled] at change
    exact .silent read rfl change rfl reply
  · next reply l' handled =>
    have replies : (Taking.frame stanza l).reply? = some reply := by
      rw [Taking.reply?, handled]
    rw [handled] at change
    refine .of_recv read rfl change (List.append_nil _).symm rfl (c.gives_send reply) ?_
    intro works
    obtain ⟨c', sent, said⟩ := Connection.send_of_works works reply
    have written : (Connection.send reply c).2 = c' := by rw [sent]
    rw [replies]
    rw [← written] at said
    exact said

theorem took_awaitEnabled {s : Session} (off : s.ledger = none) :
    Took s s.awaitTakings s.awaitEnabled.2 := by
  -- The takings follow the recursion of the wait, case by case.
  fun_induction awaitEnabled s with
  | case1 s why c read =>
    rw [awaitTakings, read]
    exact .nothing (by rw [read]; rfl) (by rw [read])
  | case2 s c read =>
    rw [awaitTakings, read]
    exact .nothing (by rw [read]; rfl) (by rw [read])
  | case3 s stanza c read kind =>
    rw [awaitTakings, read]
    dsimp only
    rw [if_pos (.inl kind)]
    refine .silent read rfl ?_ rfl rfl
    rw [off]
    exact .enabled kind
  | case4 s stanza c read kind =>
    rw [awaitTakings, read]
    dsimp only
    rw [if_pos (.inr kind)]
    refine .silent read rfl ?_ rfl rfl
    rw [off]
    exact .refused kind
  | case5 s stanza c read enabled failed ih =>
    rw [awaitTakings, read]
    dsimp only
    rw [if_neg (not_or.2 ⟨enabled, failed⟩)]
    have change : (Taking.kept stanza).Changes s.ledger s.ledger := by
      rw [off]
      exact .kept enabled failed
    have first : Took s [.kept stanza]
        { s with connection := c, backlog := s.backlog ++ [stanza] } :=
      .of_recv read rfl change rfl rfl (.refl c) .refl
    exact first.trans (ih off)

/-- All that waiting for the next stanza to hand out takes, and that at most one is handed out. -/
theorem took_recvFresh (s : Session) : Took s s.recvTakings s.recvFresh.2
    ∧ s.recvTakings.filterMap Taking.passed? = s.recvFresh.1.value?.toList := by
  fun_induction recvFresh s with
  | case1 s why c read =>
    rw [recvTakings, read]
    exact ⟨.nothing (by rw [read]; rfl) (by rw [read]), rfl⟩
  | case2 s c read =>
    rw [recvTakings, read]
    exact ⟨.nothing (by rw [read]; rfl) (by rw [read]), rfl⟩
  | case3 s stanza c read off =>
    rw [recvTakings, read]
    dsimp only
    rw [off]
    refine ⟨.silent read rfl ?_ rfl rfl, rfl⟩
    rw [off]
    exact .uncounted
  | case4 s stanza c read l on frame why managed refused =>
    have dealt := took_manage read on frame
    rw [refused] at dealt
    rw [recvTakings, read]
    dsimp only
    rw [on]
    dsimp only
    rw [if_pos frame, refused]
    exact ⟨dealt, rfl⟩
  | case5 s stanza c read l on frame managed waits =>
    have dealt := took_manage read on frame
    rw [waits] at dealt
    rw [recvTakings, read]
    dsimp only
    rw [on]
    dsimp only
    rw [if_pos frame, waits]
    exact ⟨dealt, rfl⟩
  | case6 s stanza c read l on frame managed dealt ih =>
    have first := took_manage read on frame
    rw [dealt] at first
    rw [recvTakings, read]
    dsimp only
    rw [on]
    dsimp only
    rw [if_pos frame, dealt]
    exact ⟨first.trans ih.1, ih.2⟩
  | case7 s stanza c read l on other =>
    rw [recvTakings, read]
    dsimp only
    rw [on]
    dsimp only
    rw [if_neg other]
    refine ⟨.silent read rfl ?_ rfl rfl, rfl⟩
    rw [on]
    exact .counted other

theorem recvTakings_of_waiting {s : Session} (nothing : s.connection.recv.1 = .waiting) :
    s.recvTakings = [] := by
  have read : s.connection.recv = (.waiting, s.connection.recv.2) := Prod.ext nothing rfl
  rw [recvTakings, read]

theorem recvTakings_of_frame {s : Session} {frame : Stanza} {l : Ledger}
    (read : s.connection.recv.1 = .ready frame) (on : s.ledger = some l)
    (management : frame.isManagement)
    (dealt : (manage frame l (s.setConnection s.connection.recv.2)).1 = .ready ()) :
    s.recvTakings =
      .frame frame l :: (manage frame l (s.setConnection s.connection.recv.2)).2.recvTakings := by
  have received : s.connection.recv = (.ready frame, s.connection.recv.2) := Prod.ext read rfl
  generalize s.connection.recv.2 = c at received dealt ⊢
  have managed : manage frame l (s.setConnection c) =
      (.ready (), (manage frame l (s.setConnection c)).2) := Prod.ext dealt rfl
  generalize (manage frame l (s.setConnection c)).2 = after at managed ⊢
  rw [recvTakings, received]
  dsimp only
  rw [on]
  dsimp only
  rw [if_pos management, managed]

theorem passed_awaitTakings (s : Session) :
    s.awaitTakings.filterMap Taking.passed? = s.awaitTakings.filterMap Taking.kept? := by
  fun_induction awaitTakings s with
  | case1 => rfl
  | case2 s stanza c read other ih =>
    exact congrArg (stanza :: ·) ih
  | case3 => rfl

theorem kept_recvTakings (s : Session) : s.recvTakings.filterMap Taking.kept? = [] := by
  fun_induction recvTakings s with
  | case1 => rfl
  | case2 s stanza c read l on frame managed dealt ih => exact ih
  | case3 => rfl
  | case4 => rfl
  | case5 => rfl

theorem reply_awaitTakings (s : Session) : s.awaitTakings.filterMap Taking.reply? = [] := by
  fun_induction awaitTakings s with
  | case1 => rfl
  | case2 s stanza c read other ih => exact ih
  | case3 => rfl

theorem enable_apply (resume : Bool) (s : Session) : enable resume s =
    if s.ledger.isSome then (.ready (), s)
    else if s.offersManagement then
      match connected (Connection.send (Ledger.enableFrame resume)) s with
      | (.ready (), asked) => awaitEnabled asked
      | (.failed why, unasked) => (.failed why, unasked)
      | (.waiting, unasked) => (.waiting, unasked)
    else (.failed (.management .notOffered), s) := by
  unfold enable
  rw [Act.bind_apply, Act.andThen, Act.look]
  dsimp only
  split
  · rfl
  · rw [Act.bind_apply, Act.andThen, Act.look]
    dsimp only
    cases s.offersManagement with
    | false => rfl
    | true =>
      rw [if_neg (by decide), if_pos rfl]
      change Act.andThen (connected (Connection.send (Ledger.enableFrame resume)))
        (fun _ => awaitEnabled) s = _
      unfold Act.andThen
      generalize connected (Connection.send (Ledger.enableFrame resume)) s = sent
      obtain ⟨outcome, asked⟩ := sent
      cases outcome <;> rfl

theorem enable_eq_self {resume : Bool} {s : Session} (h : ¬ (s.ledger = none ∧ s.offersManagement)) :
    (enable resume s).2 = s := by
  rw [enable_apply]
  split
  · rfl
  next off =>
  have unoffered : ¬ s.offersManagement := fun offers => h ⟨by simpa using off, offers⟩
  rw [if_neg unoffered]

theorem recv_cases (s : Session) :
    (∃ stanza backlog, s.backlog = stanza :: backlog
        ∧ recv s = (.ready stanza, { s with backlog }) ∧ Call.recv.takings s = [])
      ∨ s.backlog = [] ∧ recv s = s.recvFresh ∧ Call.recv.takings s = s.recvTakings := by
  rw [Call.takings]
  unfold recv
  cases s.backlog with
  | nil => exact .inr ⟨rfl, rfl, rfl⟩
  | cons stanza backlog => exact .inl ⟨stanza, backlog, rfl, rfl, rfl⟩

/-- Receiving does to the accounts what its takings do. -/
theorem accounts_recv (s : Session) :
    Accounts s.ledger (Call.recv.takings s) (Call.recv.perform s).ledger
      ∧ (Call.recv.perform s).policy = s.policy := by
  rcases recv_cases s with ⟨stanza, backlog, -, first, nothing⟩ | ⟨-, fresh, taken⟩
  · rw [nothing, Call.perform, first]
    exact ⟨.nil, rfl⟩
  · rw [taken, Call.perform, fresh]
    exact ⟨(took_recvFresh s).1.accounts, (took_recvFresh s).1.policy⟩

structure Asks (resume : Bool) (s asked : Session) : Prop where
  off : s.ledger = none
  offers : s.offersManagement
  sent : connected (Connection.send (Ledger.enableFrame resume)) s = (.ready (), asked)
  waits : asked.ledger = none
  awaits : enable resume s = awaitEnabled asked

theorem asks_of_asked? {resume : Bool} {s asked : Session} (h : asked? resume s = some asked) :
    Asks resume s asked := by
  rw [asked?] at h
  split at h
  · next may =>
    split at h
    · next asked' sent =>
      cases h
      have same : (connected (Connection.send (Ledger.enableFrame resume)) s).2.ledger = s.ledger :=
        rfl
      rw [sent] at same
      refine ⟨may.1, may.2, sent, same.trans may.1, ?_⟩
      rw [enable_apply, may.1, if_neg (by decide), if_pos may.2, sent]
    · cases h
  · cases h

end XmppStream.Session
