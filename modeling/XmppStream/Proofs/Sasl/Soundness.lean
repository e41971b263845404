import Mathlib.Tactic.SplitIfs
import XmppStream.Proofs.Sasl.History

/-! Success is sound: the outcome of an exchange is success exactly when its moves are those of a
complete exchange. With PLAIN that is the server's word; with DIGEST-MD5 the server has first proved
that it knows the password. -/

namespace XmppStream.Exchange

variable {σ : Type}

/-- The challenge has a nonce, allows plain authentication as the level of protection, and leads the
client to prove `d`: its realm counts, or else the name of the server. -/
def Proposes (options : AuthOptions) (clientNonce username password : String) (challenge : Stanza)
    (d : Digest) : Prop :=
  challenge.kind = .challenge ∧ ∃ found nonce, directives challenge = .ok found
    ∧ found.get? "nonce" = some nonce
    ∧ (∀ qop, found.get? "qop" = some qop → offersAuth qop)
    ∧ d = {
        username, password, nonce, clientNonce
        realm := (found.get? "realm").getD options.server
        uri := "xmpp/" ++ (found.get? "realm").getD options.server }

/-- The challenge carries the server's proof of `d`. -/
def Proves (challenge : Stanza) (d : Digest) : Prop :=
  challenge.kind = .challenge
    ∧ ∃ found, directives challenge = .ok found ∧ found.get? "rspauth" = some d.serverProof

def proofFrame (d : Digest) : Stanza :=
  responseFrame (some (Base64.encode (Utf8.encode (d.reply d.clientProof))))

/-- The moves of a complete exchange. -/
inductive Complete (options : AuthOptions) (clientNonce : String) : Mechanism → List Move → Prop where
  | plain {offered : List String} {username password : String} {granted : Stanza} :
      options.allowPlain → Mechanism.plain.name ∈ offered → Mechanism.digestMd5.name ∉ offered →
      granted.kind = .success →
      Complete options clientNonce .plain
        [.opened offered (some (username, password))
            (authFrame .plain (some (plainText username password))),
          .took granted (.ok .done)]
  | digestMd5 {offered : List String} {username password : String} {d : Digest}
      {first second granted : Stanza} :
      Mechanism.digestMd5.name ∈ offered →
      Proposes options clientNonce username password first d → Proves second d →
      granted.kind = .success →
      Complete options clientNonce .digestMd5
        [.opened offered (some (username, password)) (authFrame .digestMd5 none),
          .took first (.ok (.send (proofFrame d))),
          .took second (.ok (.send (responseFrame none))),
          .took granted (.ok .done)]

/-- What the phase and the outcome of an exchange say about its moves. An exchange that failed may
have any. -/
inductive Story (options : AuthOptions) (clientNonce : String) :
    AuthPhase → AuthOutcome → List Move → Prop where
  | idle : Story options clientNonce .idle .pending []
  | plainSent {offered : List String} {username password : String} :
      options.allowPlain → Mechanism.plain.name ∈ offered → Mechanism.digestMd5.name ∉ offered →
      Story options clientNonce .plainSent .pending
        [.opened offered (some (username, password))
          (authFrame .plain (some (plainText username password)))]
  | digestSent {offered : List String} {username password : String} :
      Mechanism.digestMd5.name ∈ offered →
      Story options clientNonce (.digestSent username password) .pending
        [.opened offered (some (username, password)) (authFrame .digestMd5 none)]
  | responseSent {offered : List String} {username password : String} {d : Digest} {first : Stanza} :
      Mechanism.digestMd5.name ∈ offered →
      Proposes options clientNonce username password first d →
      Story options clientNonce (.responseSent d.serverProof) .pending
        [.opened offered (some (username, password)) (authFrame .digestMd5 none),
          .took first (.ok (.send (proofFrame d)))]
  | finalSent {offered : List String} {username password : String} {d : Digest}
      {first second : Stanza} :
      Mechanism.digestMd5.name ∈ offered →
      Proposes options clientNonce username password first d → Proves second d →
      Story options clientNonce .finalSent .pending
        [.opened offered (some (username, password)) (authFrame .digestMd5 none),
          .took first (.ok (.send (proofFrame d))),
          .took second (.ok (.send (responseFrame none)))]
  | succeeded {phase : AuthPhase} {m : Mechanism} {done : List Move} :
      phase.mechanism? = some m → Complete options clientNonce m done →
      Story options clientNonce phase .succeeded done
  | failed {phase : AuthPhase} {why : AuthFault} {done : List Move} :
      Story options clientNonce phase (.failed why) done

theorem select?_eq_plain {options : AuthOptions} {offered : List String}
    (h : select? options offered = some .plain) :
    options.allowPlain ∧ Mechanism.plain.name ∈ offered ∧ Mechanism.digestMd5.name ∉ offered := by
  rw [select?] at h
  split at h
  · cases h
  next weaker =>
  split at h
  · next allowed => exact ⟨allowed.1, allowed.2, weaker⟩
  · cases h

theorem select?_eq_digestMd5 {options : AuthOptions} {offered : List String}
    (h : select? options offered = some .digestMd5) : Mechanism.digestMd5.name ∈ offered := by
  rw [select?] at h
  split at h
  · next listed => exact listed
  · split at h <;> cases h

theorem digest_eq_ok {e : Exchange} {found : Table} {username password : String} {d : Digest}
    {challenge : Stanza} (kind : challenge.kind = .challenge) (read : directives challenge = .ok found)
    (h : e.digest found username password = .ok d) :
    Proposes e.options e.clientNonce username password challenge d := by
  rw [digest] at h
  split at h
  · cases h
  next nonce named =>
  split at h
  · cases h
  next levels =>
  cases h
  refine ⟨kind, found, nonce, read, named, ?_, rfl⟩
  intro qop listed
  rw [listed, Option.filter_some] at levels
  split at levels
  · cases levels
  · next offers => simpa using offers

/-- What a frame of the server does to an exchange whose outcome is pending. -/
theorem handle_cases {e : Exchange} (pending : e.outcome = .pending) (frame : Stanza) :
    (∃ why, e.handle frame = (.error why, e.fail why))
      ∨ (frame.kind = .success ∧ e.phase.complete
        ∧ e.handle frame = (.ok .done, { e with outcome := .succeeded }))
      ∨ ∃ reply phase, frame.kind = .challenge ∧ e.challenged frame = .ok (reply, phase)
        ∧ e.handle frame = (.ok (.send reply), { e with phase }) := by
  rw [handle, if_neg (by simpa using pending)]
  split
  · exact .inl ⟨_, rfl⟩
  split
  · next why _ => exact .inl ⟨why, rfl⟩
  next reacted =>
  right
  rw [react] at reacted
  split at reacted
  · cases reacted
  · next kind =>
    split at reacted
    · cases reacted
    next reply phase answered =>
    cases reacted
    exact .inr ⟨reply, phase, kind, answered, rfl⟩
  · next kind =>
    split at reacted
    · next complete =>
      cases reacted
      exact .inl ⟨kind, complete, rfl⟩
    · cases reacted
  · cases reacted

theorem challenged_cases {e : Exchange} {frame reply : Stanza} {phase : AuthPhase}
    (kind : frame.kind = .challenge) (h : e.challenged frame = .ok (reply, phase)) :
    (∃ username password d, e.phase = .digestSent username password
        ∧ Proposes e.options e.clientNonce username password frame d
        ∧ reply = proofFrame d ∧ phase = .responseSent d.serverProof)
      ∨ ∃ expected found, e.phase = .responseSent expected ∧ directives frame = .ok found
        ∧ found.get? "rspauth" = some expected ∧ reply = responseFrame none
        ∧ phase = .finalSent := by
  rw [challenged] at h
  split at h
  · cases h
  split at h
  · cases h
  next found read =>
  rw [answer] at h
  split at h
  · cases h
  · cases h
  · next username password sent =>
    split at h
    · cases h
    next d computed =>
    cases h
    exact .inl ⟨username, password, d, sent, digest_eq_ok kind read computed, rfl, rfl⟩
  · next expected sent =>
    split at h
    · next proved =>
      cases h
      exact .inr ⟨expected, found, sent, read, proved, rfl, rfl⟩
    · cases h
  · cases h

theorem Story.handle {e : Exchange} {done : List Move} (pending : e.outcome = .pending)
    (h : Story e.options e.clientNonce e.phase .pending done) (frame : Stanza) :
    Story e.options e.clientNonce (e.handle frame).2.phase (e.handle frame).2.outcome
      (done ++ [.took frame (e.handle frame).1]) := by
  rcases handle_cases pending frame with ⟨why, handled⟩ | ⟨kind, complete, handled⟩
    | ⟨reply, phase, kind, answered, handled⟩
  · rw [handled]
    exact .failed
  · rw [handled]
    change Story e.options e.clientNonce e.phase .succeeded _
    generalize e.phase = phase at h complete ⊢
    -- Success ends the exchange only in the two phases where nothing is left to prove.
    cases h with
    | idle => cases complete
    | plainSent allowed listed weaker => exact .succeeded rfl (.plain allowed listed weaker kind)
    | digestSent => cases complete
    | responseSent => cases complete
    | finalSent listed proposes proves =>
      exact .succeeded rfl (.digestMd5 listed proposes proves kind)
  · rw [handled]
    change Story e.options e.clientNonce phase e.outcome _
    rw [pending]
    rcases challenged_cases kind answered with ⟨username, password, d, sent, proposes, rfl, rfl⟩
      | ⟨expected, found, sent, read, proved, rfl, rfl⟩
    · rw [sent] at h
      cases h with
      | digestSent listed => exact .responseSent listed proposes
    -- The proof that is expected is the one for the digest that the first challenge proposed.
    · rw [sent] at h
      generalize hp : AuthPhase.responseSent expected = p at h
      cases h with
      | responseSent listed proposes =>
        cases hp
        exact .finalSent listed proposes ⟨kind, found, read, proved⟩
      | _ => cases hp

theorem Story.start {e : Exchange} {done : List Move}
    (h : Story e.options e.clientNonce e.phase e.outcome done) (offered : List String)
    (source : CredentialSource σ) (s : σ) :
    Story e.options e.clientNonce (e.start offered source s).2.1.phase
      (e.start offered source s).2.1.outcome
      (done ++ ((Call.start offered source).move? e s).toList) := by
  rw [Call.move?]
  rcases start_cases e offered source s with
    ⟨m, username, password, pending, idle, chosen, fetched, frame, after⟩ | ⟨why, refused, after⟩
  · rw [frame, after, fetched]
    rw [pending, idle] at h
    cases h
    cases m with
    | plain =>
      obtain ⟨allowed, listed, weaker⟩ := select?_eq_plain chosen
      change Story _ _ .plainSent e.outcome _
      rw [pending]
      exact .plainSent allowed listed weaker
    | digestMd5 =>
      change Story _ _ (.digestSent username password) e.outcome _
      rw [pending]
      exact .digestSent (select?_eq_digestMd5 chosen)
  · rw [refused]
    rcases after with ⟨-, same⟩ | ⟨-, -, failed⟩
    · rw [same]
      simpa using h
    · rw [failed]
      exact .failed

theorem Story.perform {e : Exchange} {done : List Move}
    (h : Story e.options e.clientNonce e.phase e.outcome done) (call : Call σ) (s : σ) :
    Story e.options e.clientNonce (call.perform e s).1.phase (call.perform e s).1.outcome
      (done ++ (call.move? e s).toList) := by
  cases call with
  | start offered source => exact h.start offered source s
  | handle frame =>
    rw [Call.perform, Call.move?]
    dsimp only
    split_ifs with pending
    · rw [pending] at h
      exact h.handle pending frame
    · rw [Exchange.handle, if_pos pending]
      simpa using h
  | cancel =>
    rw [Call.perform, Call.move?, cancel]
    dsimp only
    split_ifs with pending
    · exact .failed
    · simpa using h

theorem Call.perform_party (call : Call σ) (e : Exchange) (s : σ) :
    (call.perform e s).1.options = e.options
      ∧ (call.perform e s).1.clientNonce = e.clientNonce := by
  cases call with
  | start offered source =>
    rw [perform]
    rcases start_cases e offered source s with
      ⟨m, username, password, -, -, -, -, -, after⟩ | ⟨why, -, ⟨-, after⟩ | ⟨-, -, after⟩⟩
    · rw [after]
      cases m <;> exact ⟨rfl, rfl⟩
    · rw [after]
      exact ⟨rfl, rfl⟩
    · rw [after]
      exact ⟨rfl, rfl⟩
  | handle frame =>
    rw [perform]
    by_cases pending : e.outcome = .pending
    · rcases handle_cases pending frame with ⟨why, handled⟩ | ⟨-, -, handled⟩
        | ⟨reply, phase, -, -, handled⟩
      all_goals
        rw [handled]
        exact ⟨rfl, rfl⟩
    · rw [Exchange.handle, if_pos pending]
      exact ⟨rfl, rfl⟩
  | cancel =>
    rw [perform, Exchange.cancel]
    split_ifs <;> exact ⟨rfl, rfl⟩

theorem Story.performAll {e : Exchange} {done : List Move} {options : AuthOptions}
    {clientNonce : String} (ho : e.options = options) (hn : e.clientNonce = clientNonce)
    (h : Story options clientNonce e.phase e.outcome done) (calls : List (Call σ)) (s : σ) :
    Story options clientNonce (e.performAll s calls).phase (e.performAll s calls).outcome
      (done ++ e.moves s calls) := by
  induction calls generalizing e done s with
  | nil => simpa only [Exchange.performAll, moves, List.append_nil] using h
  | cons call calls ih =>
    have party := call.perform_party e s
    subst ho hn
    rw [Exchange.performAll, moves, ← List.append_assoc]
    exact ih party.1 party.2 (h.perform call s) _

theorem succeeded_of_done {e : Exchange} {calls : List (Call σ)} {s : σ} {granted : Stanza}
    (h : .took granted (.ok .done) ∈ e.moves s calls) :
    (e.performAll s calls).outcome = .succeeded := by
  induction calls generalizing e s with
  | nil => cases h
  | cons call calls ih =>
    rw [moves, List.mem_append] at h
    rw [performAll]
    rcases h with now | later
    · have succeeded : (call.perform e s).1.outcome = .succeeded := by
        rw [Option.mem_toList] at now
        cases call with
        | start offered source =>
          rw [Call.move?] at now
          split at now <;> cases now
        | handle frame =>
          rw [Call.move?] at now
          split_ifs at now with pending
          obtain ⟨rfl, answer⟩ := Move.took.inj (Option.some.inj now)
          rw [Call.perform]
          rcases handle_cases pending frame with ⟨why, handled⟩ | ⟨-, -, handled⟩
            | ⟨reply, phase, -, -, handled⟩
          · rw [handled] at answer
            cases answer
          · rw [handled]
          · rw [handled] at answer
            cases answer
        | cancel => cases now
      -- Success is final, so the calls after it change nothing.
      have ended : (call.perform e s).1.outcome ≠ .pending := by
        simp [succeeded]
      rw [performAll_of_ended ended, succeeded]
    · exact ih later

theorem Complete.done_mem {options : AuthOptions} {clientNonce : String} {m : Mechanism}
    {done : List Move} (h : Complete options clientNonce m done) :
    ∃ granted, .took granted (.ok .done) ∈ done := by
  cases h with
  | plain => exact ⟨_, .tail _ (.head _)⟩
  | digestMd5 => exact ⟨_, .tail _ (.tail _ (.tail _ (.head _)))⟩

/-- Whatever calls are made on a fresh exchange, and whatever the server sends, the outcome is
success exactly when the moves are those of a complete exchange with the mechanism chosen. -/
theorem succeeded_iff_complete (options : AuthOptions) (clientNonce : String)
    (calls : List (Call σ)) (s : σ) :
    ((fresh options clientNonce).performAll s calls).outcome = .succeeded
      ↔ ∃ m, ((fresh options clientNonce).performAll s calls).mechanism? = some m
        ∧ Complete options clientNonce m ((fresh options clientNonce).moves s calls) := by
  have story := Story.performAll (e := fresh options clientNonce) rfl rfl .idle calls s
  rw [List.nil_append] at story
  constructor
  · intro h
    rw [h] at story
    rw [mechanism?]
    generalize ((fresh options clientNonce).performAll s calls).phase = phase at story ⊢
    cases story with
    | succeeded chosen complete => exact ⟨_, chosen, complete⟩
  · rintro ⟨m, -, complete⟩
    obtain ⟨granted, done⟩ := complete.done_mem
    exact succeeded_of_done done

end XmppStream.Exchange
