import XmppStream.Proofs.Sasl.Soundness

/-! Outcomes are final and mechanisms are kept. A refusal is recorded as it is told, and an exchange
that has ended or has chosen its mechanism cannot be started once more. -/

namespace XmppStream.Exchange

variable {σ : Type} {e : Exchange}

theorem idle_of_mechanism?_eq_none (unchosen : e.mechanism? = none) : e.phase = .idle := by
  rw [mechanism?] at unchosen
  generalize e.phase = phase at unchosen ⊢
  cases phase with
  | idle => rfl
  | _ => cases unchosen

theorem mechanism?_handle {m : Mechanism} (chosen : e.mechanism? = some m) (frame : Stanza) :
    (e.handle frame).2.mechanism? = some m := by
  by_cases pending : e.outcome = .pending
  · rcases handle_cases pending frame with ⟨why, handled⟩ | ⟨-, -, handled⟩
      | ⟨reply, phase, kind, answered, handled⟩
    · rw [handled]
      exact chosen
    · rw [handled]
      exact chosen
    · rw [handled]
      rw [mechanism?] at chosen
      rcases challenged_cases kind answered with ⟨username, password, d, sent, -, -, rfl⟩
        | ⟨expected, found, sent, -, -, -, rfl⟩
      · rw [sent] at chosen
        exact chosen
      · rw [sent] at chosen
        exact chosen
  · rw [handle_of_ended pending]
    exact chosen

theorem start_of_chosen (chosen : e.mechanism? ≠ none) (offered : List String)
    (source : CredentialSource σ) (s : σ) :
    e.start offered source s = (.error .alreadyFinished, e, s) := by
  have underway : e.phase ≠ .idle := by
    intro idle
    rw [mechanism?, idle] at chosen
    exact chosen rfl
  rw [start, if_pos (.inr underway)]

theorem mechanism?_perform {m : Mechanism} (chosen : e.mechanism? = some m) (call : Call σ) (s : σ) :
    (call.perform e s).1.mechanism? = some m := by
  cases call with
  | start offered source =>
    rw [Call.perform, start_of_chosen (by simp [chosen])]
    exact chosen
  | handle frame => exact mechanism?_handle chosen frame
  | cancel =>
    rw [Call.perform, cancel]
    split_ifs
    · exact chosen
    · exact chosen

theorem mechanism?_performAll {m : Mechanism} (chosen : e.mechanism? = some m)
    (calls : List (Call σ)) (s : σ) : (e.performAll s calls).mechanism? = some m := by
  induction calls generalizing e s with
  | nil => exact chosen
  | cons call calls ih => exact ih (mechanism?_perform chosen call s) _

theorem outcome_of_refused (pending : e.outcome = .pending) {frame : Stanza} {why : AuthFault}
    (refused : (e.handle frame).1 = .error why) : (e.handle frame).2.outcome = .failed why := by
  rcases handle_cases pending frame with ⟨why', handled⟩ | ⟨-, -, handled⟩ | ⟨_, _, -, -, handled⟩
  · rw [handled] at refused ⊢
    cases refused
    rfl
  · rw [handled] at refused
    cases refused
  · rw [handled] at refused
    cases refused

theorem outcome_of_unstarted (pending : e.outcome = .pending) (unchosen : e.mechanism? = none)
    {offered : List String} {source : CredentialSource σ} {s : σ} {why : AuthFault}
    (refused : (e.start offered source s).1 = .error why) :
    (e.start offered source s).2.1.outcome = .failed why := by
  have idle := idle_of_mechanism?_eq_none unchosen
  rcases start_cases e offered source s with ⟨_, _, _, -, -, -, -, started, -⟩ | ⟨why', told, after⟩
  · rw [started] at refused
    cases refused
  · rw [told] at refused
    cases refused
    rcases after with ⟨closed, -⟩ | ⟨-, -, failed⟩
    · rw [pending, idle] at closed
      simp at closed
    · rw [failed]
      rfl

theorem performAll_append (e : Exchange) (before : List (Call σ)) (s : σ) :
    ∃ t, ∀ after, e.performAll s (before ++ after) = (e.performAll s before).performAll t after := by
  induction before generalizing e s with
  | nil => exact ⟨s, fun _ => rfl⟩
  | cons call before ih => exact ih _ _

/-- Whatever calls are made on a fresh exchange in any order: once its outcome is no longer pending,
it stays, and starts and frames are refused. Up to then every frame that is refused, and every start
that is refused before a mechanism is chosen, ends the exchange with the fault that is told. A start
after that is refused without any change, and the mechanism chosen stays. -/
theorem outcome_is_final (options : AuthOptions) (clientNonce : String)
    (before after : List (Call σ)) (s : σ) :
    let e := (fresh options clientNonce).performAll s before
    let later := (fresh options clientNonce).performAll s (before ++ after)
    (e.outcome ≠ .pending → later.outcome = e.outcome
        ∧ (∀ offered (source : CredentialSource σ) t,
          (later.start offered source t).1 = .error .alreadyFinished)
        ∧ ∀ frame, (later.handle frame).1 = .error .alreadyFinished)
      ∧ (e.outcome = .pending →
        (∀ frame why, (e.handle frame).1 = .error why → (e.handle frame).2.outcome = .failed why)
          ∧ (e.mechanism? = none → ∀ offered (source : CredentialSource σ) t why,
            (e.start offered source t).1 = .error why →
              (e.start offered source t).2.1.outcome = .failed why)
          ∧ (e.mechanism? ≠ none → ∀ offered (source : CredentialSource σ) t,
            e.start offered source t = (.error .alreadyFinished, e, t)))
      ∧ ∀ m, e.mechanism? = some m → later.mechanism? = some m := by
  intro e later
  obtain ⟨t, continues⟩ := (fresh options clientNonce).performAll_append before s
  -- The later calls go on from the exchange that the earlier ones left.
  have goesOn : later = e.performAll t after := continues after
  refine ⟨fun ended => ?_, fun pending => ⟨?_, ?_, ?_⟩, fun m chosen => ?_⟩
  · rw [goesOn, performAll_of_ended ended]
    refine ⟨rfl, fun offered source t => ?_, fun frame => ?_⟩
    · rw [start_of_ended ended]
    · rw [handle_of_ended ended]
  · intro frame why refused
    exact outcome_of_refused pending refused
  · intro unchosen offered source t why refused
    exact outcome_of_unstarted pending unchosen refused
  · intro chosen offered source t
    exact start_of_chosen chosen offered source t
  · rw [goesOn]
    exact mechanism?_performAll chosen after t

def challengedPlain : List (Call Unit) :=
  [.start ["PLAIN"] (Credentials.source ⟨some "u", some "p"⟩),
    .handle { name := "challenge", ns := Namespace.sasl }]

theorem outcome_is_final_challengedPlain :
    let later := (fresh ⟨"example.org", true, true⟩ "c").performAll ()
      (challengedPlain ++ [.cancel, .start ["PLAIN"] (Credentials.source ⟨none, none⟩)])
    later.outcome = .failed (.invalidReply .plainChallenged) ∧ later.mechanism? = some .plain
      ∧ (later.handle { name := "success", ns := Namespace.sasl }).1 = .error .alreadyFinished := by
  obtain ⟨ended, -, kept⟩ := outcome_is_final ⟨"example.org", true, true⟩ "c" challengedPlain
    [.cancel, .start ["PLAIN"] (Credentials.source ⟨none, none⟩)] ()
  have failed : ((fresh ⟨"example.org", true, true⟩ "c").performAll () challengedPlain).outcome =
      .failed (.invalidReply .plainChallenged) := by decide
  obtain ⟨stays, -, refused⟩ := ended (by rw [failed]; nofun)
  exact ⟨stays.trans failed, kept .plain (by decide), refused _⟩

end XmppStream.Exchange
