import XmppStream.Sasl.Exchange

/-! Histories of an authentication exchange: the calls made on it in any order, and the moves among
them, which are the starts that gave a frame and the frames of the server taken while the outcome
was open. -/

namespace XmppStream.Exchange

variable {σ : Type}

/-- A call on an exchange. Each start brings its own source of credentials; `σ` is what all the
sources share. -/
inductive Call (σ : Type) where
  | start (offered : List String) (source : CredentialSource σ)
  | handle (frame : Stanza)
  | cancel

inductive Move where
  /-- A start that gave a frame, with the credentials that its source had. -/
  | opened (offered : List String) (credentials : Option (String × String)) (frame : Stanza)
  /-- A frame of the server taken while the outcome was pending, and the answer to it. -/
  | took (frame : Stanza) (answer : Except AuthFault AuthStep)

namespace Call

def perform (call : Call σ) (e : Exchange) (s : σ) : Exchange × σ :=
  match call with
  | start offered source => (e.start offered source s).2
  | handle frame => ((e.handle frame).2, s)
  | cancel => (e.cancel, s)

def move? (call : Call σ) (e : Exchange) (s : σ) : Option Move :=
  match call with
  | start offered source =>
    match (e.start offered source s).1 with
    | .ok frame => some (.opened offered (source.fetch s).1 frame)
    | .error _ => none
  | handle frame => if e.outcome = .pending then some (.took frame (e.handle frame).1) else none
  | cancel => none

end Call

def performAll (e : Exchange) (s : σ) : List (Call σ) → Exchange
  | [] => e
  | call :: calls => performAll (call.perform e s).1 (call.perform e s).2 calls

def moves (e : Exchange) (s : σ) : List (Call σ) → List Move
  | [] => []
  | call :: calls =>
    (call.move? e s).toList ++ moves (call.perform e s).1 (call.perform e s).2 calls

def answers (e : Exchange) : List Stanza → List (Except AuthFault AuthStep)
  | [] => []
  | frame :: frames => (e.handle frame).1 :: (e.handle frame).2.answers frames

def handleAll (e : Exchange) : List Stanza → Exchange
  | [] => e
  | frame :: frames => (e.handle frame).2.handleAll frames

def fresh (options : AuthOptions) (clientNonce : String) : Exchange := { options, clientNonce }

theorem start_of_ended {e : Exchange} (ended : e.outcome ≠ .pending) (offered : List String)
    (source : CredentialSource σ) (s : σ) :
    e.start offered source s = (.error .alreadyFinished, e, s) := by
  rw [start, if_pos (.inl ended)]

theorem handle_of_ended {e : Exchange} (ended : e.outcome ≠ .pending) (frame : Stanza) :
    e.handle frame = (.error .alreadyFinished, e) := by
  rw [handle, if_pos ended]

theorem performAll_of_ended {e : Exchange} (ended : e.outcome ≠ .pending) (calls : List (Call σ))
    (s : σ) : e.performAll s calls = e := by
  induction calls generalizing s with
  | nil => rfl
  | cons call calls ih =>
    have same : (call.perform e s).1 = e := by
      cases call with
      | start offered source => rw [Call.perform, start_of_ended ended]
      | handle frame => rw [Call.perform, handle_of_ended ended]
      | cancel => rw [Call.perform, cancel, if_neg ended]
    rw [performAll, same]
    exact ih _

/-- What a call does to an exchange, told apart by whether it made a move. -/
theorem start_cases (e : Exchange) (offered : List String) (source : CredentialSource σ) (s : σ) :
    (∃ m username password, e.outcome = .pending ∧ e.phase = .idle
        ∧ select? e.options offered = some m
        ∧ (source.fetch s).1 = some (username, password)
        ∧ (e.start offered source s).1 = .ok (e.begin m username password).1
        ∧ (e.start offered source s).2.1 = (e.begin m username password).2)
      ∨ ∃ why, (e.start offered source s).1 = .error why
        ∧ ((e.outcome ≠ .pending ∨ e.phase ≠ .idle) ∧ (e.start offered source s).2.1 = e
          ∨ e.outcome = .pending ∧ e.phase = .idle ∧ (e.start offered source s).2.1 = e.fail why) := by
  rw [start]
  split
  · next closed => exact .inr ⟨.alreadyFinished, rfl, .inl ⟨closed, rfl⟩⟩
  next open_ =>
  have idle : e.outcome = .pending ∧ e.phase = .idle := by
    simpa only [ne_eq, not_or, Decidable.not_not] using open_
  split
  · exact .inr ⟨_, rfl, .inr ⟨idle.1, idle.2, rfl⟩⟩
  split
  · exact .inr ⟨_, rfl, .inr ⟨idle.1, idle.2, rfl⟩⟩
  next m chosen =>
  split
  · exact .inr ⟨_, rfl, .inr ⟨idle.1, idle.2, rfl⟩⟩
  · next username password s' fetched =>
    refine .inl ⟨m, username, password, idle.1, idle.2, chosen, ?_, rfl, rfl⟩
    rw [fetched]

end XmppStream.Exchange
