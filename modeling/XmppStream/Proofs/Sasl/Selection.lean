import XmppStream.Proofs.Sasl.Finality
import XmppStream.Proofs.Text.Base64

/-! The mechanism that an exchange begins with, and what is asked of the credential source for it:
nothing before a mechanism is found, then the user name, and the password only where there is
one. -/

namespace XmppStream

variable {σ : Type}

namespace CredentialSource

inductive Query where
  | username (answer : Option String)
  | password (answer : Option String)
deriving DecidableEq, Repr

/-- The source with a record of the questions beside its state. -/
def recorded (source : CredentialSource σ) : CredentialSource (σ × List Query) where
  username := fun (s, asked) =>
    ((source.username s).1, (source.username s).2, asked ++ [.username (source.username s).1])
  password := fun (s, asked) =>
    ((source.password s).1, (source.password s).2, asked ++ [.password (source.password s).1])

inductive Fetches : List Query → Option (String × String) → Prop where
  | unnamed : Fetches [.username none] none
  | unproved (username : String) : Fetches [.username (some username), .password none] none
  | both (username password : String) :
      Fetches [.username (some username), .password (some password)] (some (username, password))

theorem fetch_recorded (source : CredentialSource σ) (s : σ) (asked : List Query) :
    ∃ more, Fetches more (source.fetch s).1
      ∧ source.recorded.fetch (s, asked) =
        ((source.fetch s).1, (source.fetch s).2, asked ++ more) := by
  rw [fetch, fetch]
  dsimp only [recorded]
  generalize source.username s = named
  rcases named with ⟨_ | username, s⟩
  · exact ⟨_, .unnamed, rfl⟩
  dsimp only
  generalize source.password s = proved
  rcases proved with ⟨_ | password, s⟩
  · exact ⟨_, .unproved username, by simp⟩
  · exact ⟨_, .both username password, by simp⟩

end CredentialSource

open CredentialSource

namespace Exchange

structure Attempt where
  before : Exchange
  offered : List String
  result : Except AuthFault Stanza
  asked : List Query

def Call.attempt? (call : Call σ) (e : Exchange) (s : σ) : Option Attempt :=
  match call with
  | start offered source => some {
      before := e
      offered
      result := (e.start offered source s).1
      asked := (e.start offered source.recorded (s, [])).2.2.2 }
  | handle _ | cancel => none

def attempts (e : Exchange) (s : σ) : List (Call σ) → List Attempt
  | [] => []
  | call :: calls =>
    (call.attempt? e s).toList ++ attempts (call.perform e s).1 (call.perform e s).2 calls

/-- Whether a start can no longer choose a mechanism. -/
def Settled (e : Exchange) : Prop := e.outcome ≠ .pending ∨ e.mechanism? ≠ none

def Usable (options : AuthOptions) (offered : List String) : Prop :=
  Mechanism.digestMd5.name ∈ offered ∨ options.allowPlain ∧ Mechanism.plain.name ∈ offered

/-- The frame that begins an exchange, where the source gave these credentials. -/
inductive Selects (options : AuthOptions) (offered : List String) (username password : String) :
    Stanza → Prop where
  | digestMd5 : Mechanism.digestMd5.name ∈ offered →
      Selects options offered username password (authFrame .digestMd5 none)
  | plain {text : String} : options.allowPlain → Mechanism.plain.name ∈ offered →
      Mechanism.digestMd5.name ∉ offered →
      Base64.decode? text = some (Utf8.encode ("\x00" ++ username ++ "\x00" ++ password)) →
      Selects options offered username password (authFrame .plain (some text))

inductive Attempt.Runs (a : Attempt) : Prop where
  | settled (settled : a.before.Settled) (refused : a.result = .error .alreadyFinished)
      (quiet : a.asked = [])
  | unusable {why : AuthFault} (unsettled : ¬ a.before.Settled)
      (unusable : ¬ Usable a.before.options a.offered) (refused : a.result = .error why)
      (quiet : a.asked = [])
  | unavailable (unsettled : ¬ a.before.Settled) (usable : Usable a.before.options a.offered)
      (fetches : Fetches a.asked none) (refused : a.result = .error .noCredentials)
  | begun {username password : String} {frame : Stanza} (unsettled : ¬ a.before.Settled)
      (usable : Usable a.before.options a.offered)
      (selects : Selects a.before.options a.offered username password frame)
      (fetches : Fetches a.asked (some (username, password))) (sent : a.result = .ok frame)

theorem settled_iff {e : Exchange} : e.Settled ↔ e.outcome ≠ .pending ∨ e.phase ≠ .idle := by
  rw [Settled, mechanism?]
  cases e.phase <;> simp [AuthPhase.mechanism?]

theorem usable_of_select? {options : AuthOptions} {offered : List String} {m : Mechanism}
    (h : select? options offered = some m) : Usable options offered := by
  cases m with
  | plain =>
    obtain ⟨allowed, listed, -⟩ := select?_eq_plain h
    exact .inr ⟨allowed, listed⟩
  | digestMd5 => exact .inl (select?_eq_digestMd5 h)

theorem not_usable_of_select? {options : AuthOptions} {offered : List String}
    (h : select? options offered = none) : ¬ Usable options offered := by
  rw [select?] at h
  split_ifs at h with digest plain
  exact not_or.2 ⟨digest, plain⟩

theorem selects_begin {e : Exchange} {offered : List String} {m : Mechanism}
    (h : select? e.options offered = some m) (username password : String) :
    Selects e.options offered username password (e.begin m username password).1 := by
  cases m with
  | plain =>
    obtain ⟨allowed, listed, unlisted⟩ := select?_eq_plain h
    exact .plain allowed listed unlisted (Base64.decode?_encode _)
  | digestMd5 => exact .digestMd5 (select?_eq_digestMd5 h)

theorem runs_attempt (e : Exchange) (offered : List String) (source : CredentialSource σ) (s : σ) :
    Attempt.Runs {
      before := e
      offered
      result := (e.start offered source s).1
      asked := (e.start offered source.recorded (s, [])).2.2.2 } := by
  by_cases settled : e.Settled
  · have refused {τ : Type} (source : CredentialSource τ) (t : τ) :
        e.start offered source t = (.error .alreadyFinished, e, t) := by
      rw [start, if_pos (settled_iff.1 settled)]
    exact .settled settled (by rw [refused]) (by simp only [refused])
  rw [start, start, if_neg (mt settled_iff.2 settled), if_neg (mt settled_iff.2 settled)]
  by_cases nothing : offered = []
  · subst nothing
    exact .unusable settled (by simp [Usable]) rfl rfl
  rw [if_neg nothing, if_neg nothing]
  cases chosen : select? e.options offered with
  | none => exact .unusable settled (not_usable_of_select? chosen) rfl rfl
  | some m =>
    -- Up to here the two runs, with the record and without, take the same branches.
    obtain ⟨more, fetches, recorded⟩ := source.fetch_recorded s []
    rw [recorded]
    dsimp only
    generalize source.fetch s = fetched at fetches
    obtain ⟨_ | ⟨username, password⟩, s'⟩ := fetched
    · exact .unavailable settled (usable_of_select? chosen) fetches rfl
    · exact .begun settled (usable_of_select? chosen) (selects_begin chosen username password)
        fetches rfl

theorem Settled.perform {e : Exchange} (h : e.Settled) (call : Call σ) (s : σ) :
    (call.perform e s).1.Settled := by
  rcases h with ended | chosen
  · have same : (call.perform e s).1 = e := performAll_of_ended ended [call] s
    rw [same]
    exact .inl ended
  · obtain ⟨m, chosen⟩ := Option.ne_none_iff_exists'.1 chosen
    rw [Settled, mechanism?_perform chosen]
    exact .inr nofun

/-- Every call settles an exchange. -/
theorem settled_perform (options : AuthOptions) (clientNonce : String) (call : Call σ) (s : σ) :
    (call.perform (fresh options clientNonce) s).1.Settled := by
  cases call with
  | start offered source =>
    rw [Call.perform]
    rcases start_cases (fresh options clientNonce) offered source s with
      ⟨m, username, password, -, -, -, -, -, begun⟩ | ⟨why, -, ⟨closed, -⟩ | ⟨-, -, failed⟩⟩
    · rw [begun]
      refine .inr fun idle => ?_
      cases m <;> cases idle
    · simp [fresh] at closed
    · rw [failed]
      exact .inl (by simp [fail])
  | handle frame => exact .inl (by simp [Call.perform, handle, fresh, fail])
  | cancel => exact .inl (by simp [Call.perform, cancel, fresh, fail])

theorem runs_attempt? {call : Call σ} {e : Exchange} {s : σ} {a : Attempt}
    (h : call.attempt? e s = some a) : a.before = e ∧ a.Runs := by
  cases call with
  | start offered source =>
    cases h
    exact ⟨rfl, runs_attempt e offered source s⟩
  | handle frame => cases h
  | cancel => cases h

theorem runs_attempts (e : Exchange) (s : σ) (calls : List (Call σ)) :
    ∀ a ∈ e.attempts s calls, a.Runs := by
  induction calls generalizing e s with
  | nil => exact List.forall_mem_nil _
  | cons call calls ih =>
    rw [attempts, List.forall_mem_append]
    exact ⟨fun a mem => (runs_attempt? (Option.mem_toList.1 mem)).2, ih _ _⟩

theorem settled_attempts {e : Exchange} (h : e.Settled) (s : σ) (calls : List (Call σ)) :
    ∀ a ∈ e.attempts s calls, a.before.Settled := by
  induction calls generalizing e s with
  | nil => exact List.forall_mem_nil _
  | cons call calls ih =>
    rw [attempts, List.forall_mem_append]
    refine ⟨fun a mem => ?_, ih (h.perform call s) _⟩
    rw [(runs_attempt? (Option.mem_toList.1 mem)).1]
    exact h

theorem Attempt.Runs.of_settled {a : Attempt} (h : a.Runs) (settled : a.before.Settled) :
    a.result = .error .alreadyFinished ∧ a.asked = [] := by
  cases h with
  | settled _ refused quiet => exact ⟨refused, quiet⟩
  | unusable unsettled => exact absurd settled unsettled
  | unavailable unsettled => exact absurd settled unsettled
  | begun unsettled => exact absurd settled unsettled

theorem Attempt.Runs.of_ok {a : Attempt} {frame : Stanza} (h : a.Runs)
    (sent : a.result = .ok frame) : ∃ username password, Fetches a.asked (some (username, password))
      ∧ Selects a.before.options a.offered username password frame := by
  cases h with
  | settled _ refused => cases refused.symm.trans sent
  | unusable _ _ refused => cases refused.symm.trans sent
  | unavailable _ _ _ refused => cases refused.symm.trans sent
  | begun _ _ selects fetches sent' =>
    cases sent'.symm.trans sent
    exact ⟨_, _, fetches, selects⟩

theorem Attempt.Runs.asks {a : Attempt} (h : a.Runs) :
    a.asked = [] ∨ Usable a.before.options a.offered ∧ ∃ given, Fetches a.asked given := by
  cases h with
  | settled _ _ quiet => exact .inl quiet
  | unusable _ _ _ quiet => exact .inl quiet
  | unavailable _ usable fetches => exact .inr ⟨usable, _, fetches⟩
  | begun _ usable _ fetches => exact .inr ⟨usable, _, fetches⟩

theorem attempts_fresh (options : AuthOptions) (clientNonce : String) (s : σ)
    (calls : List (Call σ)) :
    ∃ (first : Option Attempt) (later : List Attempt),
      (fresh options clientNonce).attempts s calls = first.toList ++ later
        ∧ (∀ a ∈ first, a.before = fresh options clientNonce ∧ a.Runs)
        ∧ ∀ a ∈ later, a.result = .error .alreadyFinished ∧ a.asked = [] := by
  cases calls with
  | nil =>
    refine ⟨none, [], rfl, fun a found => ?_, List.forall_mem_nil _⟩
    cases found
  | cons call calls =>
    refine ⟨_, _, rfl, fun a found => runs_attempt? found, fun a mem => ?_⟩
    exact (runs_attempts _ _ calls a mem).of_settled
      (settled_attempts (settled_perform options clientNonce call s) _ calls a mem)

/-- Whatever calls are made on a fresh exchange: a start that gives a frame names DIGEST-MD5
wherever that is offered, without a text, and else PLAIN, if allowed and offered, with the user name
and the password that its source gave. A source is asked by a start alone that finds the exchange
fresh and a mechanism to use; in all, it is asked for a user name once at most, and then once for a
password if there was a user name. The starts after the first are refused, whether that one failed
or not. -/
theorem mechanism_selected (options : AuthOptions) (clientNonce : String) (calls : List (Call σ))
    (s : σ) :
    let attempts := (fresh options clientNonce).attempts s calls
    (∀ a ∈ attempts, ∀ frame, a.result = .ok frame →
        ∃ username password, Fetches a.asked (some (username, password))
          ∧ Selects options a.offered username password frame)
      ∧ (∀ a ∈ attempts, a.asked ≠ [] →
        a.before = fresh options clientNonce ∧ Usable options a.offered)
      ∧ (attempts.flatMap Attempt.asked = []
        ∨ ∃ given, Fetches (attempts.flatMap Attempt.asked) given)
      ∧ (attempts.filter (·.result.isOk)).length ≤ 1
      ∧ ∀ a ∈ attempts.tail, a.result = .error .alreadyFinished := by
  intro attempts
  obtain ⟨first, later, split, runs, refused⟩ := attempts_fresh options clientNonce s calls
  rw [show attempts = _ from split]
  -- Of all attempts the first alone can ask, choose, and succeed.
  have quiet : later.flatMap Attempt.asked = [] :=
    List.flatMap_eq_nil_iff.2 fun a mem => (refused a mem).2
  have frameless : later.filter (·.result.isOk) = [] := by
    rw [List.filter_eq_nil_iff]
    intro a mem
    rw [(refused a mem).1]
    nofun
  refine ⟨?_, ?_, ?_, ?_, ?_⟩
  · rw [List.forall_mem_append]
    refine ⟨fun a mem frame sent => ?_, fun a mem frame sent => ?_⟩
    · obtain ⟨before, ran⟩ := runs a (Option.mem_toList.1 mem)
      obtain ⟨username, password, fetches, selects⟩ := ran.of_ok sent
      rw [before] at selects
      exact ⟨username, password, fetches, selects⟩
    · cases (refused a mem).1.symm.trans sent
  · rw [List.forall_mem_append]
    refine ⟨fun a mem asked => ?_, fun a mem asked => absurd (refused a mem).2 asked⟩
    obtain ⟨before, ran⟩ := runs a (Option.mem_toList.1 mem)
    obtain ⟨usable, -⟩ := ran.asks.resolve_left asked
    rw [before] at usable
    exact ⟨before, usable⟩
  · rw [List.flatMap_append, quiet, List.append_nil]
    cases first with
    | none => exact .inl rfl
    | some a =>
      rw [Option.toList_some, List.flatMap_singleton]
      exact (runs a rfl).2.asks.imp_right And.right
  · rw [List.filter_append, frameless, List.append_nil]
    exact Nat.le_trans (List.length_filter_le _ _) Option.length_toList_le
  · cases first with
    | none => exact fun a mem => (refused a (List.mem_of_mem_tail mem)).1
    | some a => exact fun a mem => (refused a mem).1

def startedTwice : List (Call Unit) :=
  [.start ["X", "PLAIN"] (Credentials.source ⟨some "u", some "p"⟩),
    .start ["DIGEST-MD5"] (Credentials.source ⟨some "v", some "q"⟩)]

theorem mechanism_selected_startedTwice :
    let options : AuthOptions := ⟨"example.org", true, true⟩
    let attempts := (fresh options "c").attempts () startedTwice
    ∃ first second, attempts = [first, second] ∧ first.before = fresh options "c"
      ∧ Usable options first.offered ∧ first.asked ≠ []
      ∧ (∃ username password, Fetches first.asked (some (username, password))
        ∧ Selects options first.offered username password
          (authFrame .plain (some (plainText "u" "p"))))
      ∧ second.result = .error .alreadyFinished := by
  intro options attempts
  obtain ⟨selected, asked, -, -, refused⟩ := mechanism_selected options "c" startedTwice ()
  obtain ⟨first, second, both, sent, questions⟩ : ∃ first second, attempts = [first, second]
      ∧ first.result = .ok (authFrame .plain (some (plainText "u" "p"))) ∧ first.asked ≠ [] :=
    ⟨_, _, rfl, rfl, nofun⟩
  rw [show (fresh options "c").attempts () startedTwice = _ from both] at selected asked refused
  obtain ⟨before, usable⟩ := asked first List.mem_cons_self questions
  exact ⟨first, second, both, before, usable, questions,
    selected first List.mem_cons_self _ sent, refused second List.mem_cons_self⟩

end Exchange
end XmppStream
