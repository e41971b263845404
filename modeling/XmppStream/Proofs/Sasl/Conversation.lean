import Mathlib.Data.List.Basic
import XmppStream.Proofs.Sasl.Soundness
import XmppStream.Sasl.Authenticate

/-! An exchange over a channel is a run of the machine: it sends the frames that the machine gives,
one at a time and each followed by one reply, and ends after three rounds at the latest. -/

namespace XmppStream

namespace Exchange

theorem outcome_of_done {e e' : Exchange} {reply : Stanza}
    (done : e.handle reply = (.ok .done, e')) : e'.outcome = .succeeded := by
  by_cases pending : e.outcome = .pending
  · rcases handle_cases pending reply with ⟨why, handled⟩ | ⟨-, -, handled⟩ | ⟨_, _, -, -, handled⟩
    · cases done.symm.trans handled
    · cases done.symm.trans handled
      rfl
    · cases done.symm.trans handled
  · cases done.symm.trans (handle_of_ended pending reply)

/-- The last of the replies ends the exchange with success, and the others are answered with these
frames. -/
inductive Grants : Exchange → List Stanza → List Stanza → Prop where
  | last {e e' : Exchange} {reply : Stanza} (done : e.handle reply = (.ok .done, e')) :
      Grants e [reply] []
  | next {e e' : Exchange} {reply frame : Stanza} {replies frames : List Stanza}
      (goesOn : e.handle reply = (.ok (.send frame), e')) (rest : Grants e' replies frames) :
      Grants e (reply :: replies) (frame :: frames)

theorem Grants.succeeded {e : Exchange} {replies frames : List Stanza} (h : e.Grants replies frames) :
    (e.handleAll replies).outcome = .succeeded := by
  induction h with
  | last done =>
    rw [handleAll, done]
    exact outcome_of_done done
  | next goesOn _ ih =>
    rw [handleAll, goesOn]
    exact ih

theorem grants_iff (e : Exchange) (replies frames : List Stanza) : e.Grants replies frames ↔
    e.answers replies = frames.map (fun frame => .ok (.send frame)) ++ [.ok .done] := by
  constructor
  · intro h
    induction h with
    | last done =>
      rw [answers, done]
      rfl
    | next goesOn _ ih =>
      rw [answers, goesOn, ih]
      rfl
  · intro h
    induction replies generalizing e frames with
    | nil => cases frames <;> cases h
    | cons reply replies ih =>
      rw [answers] at h
      cases frames with
      | nil =>
        obtain ⟨done, none_⟩ := List.cons.inj h
        cases replies with
        | nil => exact .last (Prod.ext done rfl)
        | cons => cases none_
      | cons frame frames =>
        obtain ⟨goesOn, rest⟩ := List.cons.inj h
        exact .next (Prod.ext goesOn rfl) (ih _ frames rest)

end Exchange

namespace Authenticate

variable {σ τ : Type}

inductive Use where
  | sent (frame : Stanza) (outcome : Awaited ConnectionFault Unit)
  | received (outcome : Awaited ConnectionFault Stanza)
deriving DecidableEq

namespace Use

def frame? : Use → Option Stanza
  | sent frame _ => some frame
  | received _ => none

def reply? : Use → Option Stanza
  | received (.ready reply) => some reply
  | _ => none

def fault? : Use → Option ConnectionFault
  | sent _ (.failed why) | received (.failed why) => some why
  | _ => none

def waits : Use → Bool
  | sent _ .waiting | received .waiting => true
  | _ => false

end Use

/-- The channel with a record of its uses beside its state. -/
def recorded (channel : Channel σ) : Channel (σ × List Use) where
  send frame := fun (s, uses) =>
    ((channel.send frame s).1, (channel.send frame s).2,
      uses ++ [.sent frame (channel.send frame s).1])
  recv := fun (s, uses) =>
    ((channel.recv s).1, (channel.recv s).2, uses ++ [.received (channel.recv s).1])

def frames (uses : List Use) : List Stanza := uses.filterMap Use.frame?

def replies (uses : List Use) : List Stanza := uses.filterMap Use.reply?

section
variable (frame reply : Stanza) (uses : List Use) (outcome : Awaited ConnectionFault Unit)

@[simp]
theorem replies_nil : replies [] = [] := rfl

@[simp]
theorem replies_sent : replies (.sent frame outcome :: uses) = replies uses := rfl

@[simp]
theorem replies_ready : replies (.received (.ready reply) :: uses) = reply :: replies uses := rfl

@[simp]
theorem replies_failed (why : ConnectionFault) :
    replies (.received (.failed why) :: uses) = replies uses := rfl

@[simp]
theorem replies_waiting : replies (.received .waiting :: uses) = replies uses := rfl

@[simp]
theorem frames_nil : frames [] = [] := rfl

@[simp]
theorem frames_sent : frames (.sent frame outcome :: uses) = frame :: frames uses := rfl

@[simp]
theorem frames_received (outcome : Awaited ConnectionFault Stanza) :
    frames (.received outcome :: uses) = frames uses := rfl

end

def Alternates : List Use → Prop
  | [] => True
  | .sent _ _ :: [] => True
  | .sent _ _ :: .received _ :: uses => Alternates uses
  | _ => False

def onward? : Except AuthFault AuthStep → Option Stanza
  | .ok (.send next) => some next
  | _ => none

/-- The frames of the machine, one for each round: the first, and then those that it answers with. -/
def due (e : Exchange) (frame : Stanza) (uses : List Use) : List Stanza :=
  frame :: (e.answers (replies uses)).filterMap onward?

/-- Nothing has ended an exchange that began with `e`: no transfer failed or waits, and the machine
answers every reply with a frame. -/
def GoesOn (e : Exchange) : List Use → Prop
  | [] => True
  | .sent _ (.ready ()) :: uses => GoesOn e uses
  | .received (.ready reply) :: uses =>
    (onward? (e.handle reply).1).isSome ∧ GoesOn (e.handle reply).2 uses
  | _ => False

inductive Round (shutdown : Nat → Bool) (looks : Nat) (frame : Stanza) :
    List Use → Awaited AuthFault Stanza → Prop where
  | stopped (seen : shutdown looks = true) : Round shutdown looks frame [] (.failed .cancelled)
  | unsent {why : ConnectionFault} (unseen : shutdown looks = false) :
      Round shutdown looks frame [.sent frame (.failed why)] (.failed (lost why))
  | sending (unseen : shutdown looks = false) :
      Round shutdown looks frame [.sent frame .waiting] .waiting
  | stoppedThen (unseen : shutdown looks = false) (seen : shutdown (looks + 1) = true) :
      Round shutdown looks frame [.sent frame (.ready ())] (.failed .cancelled)
  | unanswered {why : ConnectionFault} (unseen : shutdown looks = false)
      (unseen' : shutdown (looks + 1) = false) :
      Round shutdown looks frame [.sent frame (.ready ()), .received (.failed why)]
        (.failed (lost why))
  | receiving (unseen : shutdown looks = false) (unseen' : shutdown (looks + 1) = false) :
      Round shutdown looks frame [.sent frame (.ready ()), .received .waiting] .waiting
  | answered {reply : Stanza} (unseen : shutdown looks = false)
      (unseen' : shutdown (looks + 1) = false) :
      Round shutdown looks frame [.sent frame (.ready ()), .received (.ready reply)] (.ready reply)

/-- What an exchange does with a channel from a frame to send on, and how it ends. -/
inductive Conversation (shutdown : Nat → Bool) :
    Nat → Exchange → Stanza → List Use → Awaited AuthFault Unit → Prop where
  | failed {looks : Nat} {e : Exchange} {frame : Stanza} {uses : List Use} {why : AuthFault}
      (round : Round shutdown looks frame uses (.failed why)) :
      Conversation shutdown looks e frame uses (.failed why)
  | waiting {looks : Nat} {e : Exchange} {frame : Stanza} {uses : List Use}
      (round : Round shutdown looks frame uses .waiting) :
      Conversation shutdown looks e frame uses .waiting
  | refused {looks : Nat} {e : Exchange} {frame reply : Stanza} {uses : List Use} {why : AuthFault}
      (round : Round shutdown looks frame uses (.ready reply))
      (refused : (e.handle reply).1 = .error why) :
      Conversation shutdown looks e frame uses (.failed why)
  | granted {looks : Nat} {e : Exchange} {frame reply : Stanza} {uses : List Use}
      (round : Round shutdown looks frame uses (.ready reply))
      (granted : (e.handle reply).1 = .ok .done) :
      Conversation shutdown looks e frame uses (.ready ())
  | next {looks : Nat} {e e' : Exchange} {frame reply next : Stanza} {uses more : List Use}
      {result : Awaited AuthFault Unit} (round : Round shutdown looks frame uses (.ready reply))
      (handled : e.handle reply = (.ok (.send next), e'))
      (rest : Conversation shutdown (looks + 2) e' next more result) :
      Conversation shutdown looks e frame (uses ++ more) result

section
variable (channel : Channel σ) (shutdown : Nat → Bool) (looks : Nat) (frame : Stanza) (s : σ)
  (log : List Use)

theorem round_eq : round channel shutdown looks frame s =
    if shutdown looks then (.failed .cancelled, s)
    else match channel.send frame s with
      | (.failed why, s) => (.failed (lost why), s)
      | (.waiting, s) => (.waiting, s)
      | (.ready (), s) =>
        if shutdown (looks + 1) then (.failed .cancelled, s)
        else ((channel.recv s).1.mapFault lost, (channel.recv s).2) := by
  have gives (stop : Bool) (s : σ) : (giveUpIf stop : Act σ AuthFault Unit) s =
      (if stop then .failed .cancelled else .ready (), s) := by
    cases stop <;> rfl
  rw [round, Act.bind_apply, Act.andThen, gives]
  cases shutdown looks with
  | true => rfl
  | false =>
    show (_ >>= _ : Act σ AuthFault Stanza) s = _
    rw [Act.bind_apply, Act.andThen, Act.mapFault]
    obtain ⟨outcome, s'⟩ := channel.send frame s
    cases outcome with
    | failed why => rfl
    | waiting => rfl
    | ready =>
      show (_ >>= _ : Act σ AuthFault Stanza) s' = _
      rw [Act.bind_apply, Act.andThen, gives]
      cases shutdown (looks + 1) <;> rfl

theorem round_recorded : ∃ uses,
    Round shutdown looks frame uses (round channel shutdown looks frame s).1
      ∧ round (recorded channel) shutdown looks frame (s, log) =
        ((round channel shutdown looks frame s).1, (round channel shutdown looks frame s).2,
          log ++ uses) := by
  rw [round_eq, round_eq]
  unfold recorded
  dsimp only
  cases first : shutdown looks with
  | true => exact ⟨[], .stopped first, by simp⟩
  | false =>
    obtain ⟨outcome, s'⟩ := channel.send frame s
    cases outcome with
    | failed why => exact ⟨_, .unsent first, rfl⟩
    | waiting => exact ⟨_, .sending first, rfl⟩
    | ready =>
      cases second : shutdown (looks + 1) with
      | true => exact ⟨_, .stoppedThen first second, rfl⟩
      | false =>
        dsimp only
        obtain ⟨outcome, s''⟩ := channel.recv s'
        have joined (use use' : Use) : log ++ [use] ++ [use'] = log ++ [use, use'] := by simp
        cases outcome with
        | failed why => exact ⟨_, .unanswered first second, by simp [joined]⟩
        | waiting => exact ⟨_, .receiving first second, by simp [joined]⟩
        | ready reply => exact ⟨_, .answered first second, by simp [joined]⟩

end

theorem converse_of_answered {channel : Channel σ} {shutdown : Nat → Bool} {looks : Nat}
    {e : Exchange} {frame reply : Stanza} {s s' : σ}
    (answers : round channel shutdown looks frame s = (.ready reply, s')) :
    converse channel shutdown looks e frame s = match e.handle reply with
      | (.error why, _) => (.failed why, s')
      | (.ok .done, _) => (.ready (), s')
      | (.ok (.send next), e) => converse channel shutdown (looks + 2) e next s' := by
  rw [converse, answers]
  dsimp only
  split
  · next handled => rw [handled]
  · next handled => rw [handled]
  · next handled => rw [handled]

/-- An exchange over a channel is a conversation of the machine, and recording changes nothing. -/
theorem converse_recorded (channel : Channel σ) (shutdown : Nat → Bool) (looks : Nat)
    (e : Exchange) (frame : Stanza) (s : σ) (log : List Use) : ∃ uses,
    Conversation shutdown looks e frame uses (converse channel shutdown looks e frame s).1
      ∧ converse (recorded channel) shutdown looks e frame (s, log) =
        ((converse channel shutdown looks e frame s).1,
          (converse channel shutdown looks e frame s).2, log ++ uses) := by
  fun_induction converse channel shutdown looks e frame s generalizing log with
  | case1 looks e frame s why s' fails =>
    obtain ⟨uses, round, same⟩ := round_recorded channel shutdown looks frame s log
    rw [fails] at round same
    refine ⟨uses, .failed round, ?_⟩
    rw [converse, same]
  | case2 looks e frame s s' waits =>
    obtain ⟨uses, round, same⟩ := round_recorded channel shutdown looks frame s log
    rw [waits] at round same
    refine ⟨uses, .waiting round, ?_⟩
    rw [converse, same]
  | case3 looks e frame s reply s' answers why e' refused =>
    obtain ⟨uses, round, same⟩ := round_recorded channel shutdown looks frame s log
    rw [answers] at round same
    refine ⟨uses, .refused round (congrArg Prod.fst refused), ?_⟩
    rw [converse_of_answered same, refused]
  | case4 looks e frame s reply s' answers e' granted =>
    obtain ⟨uses, round, same⟩ := round_recorded channel shutdown looks frame s log
    rw [answers] at round same
    refine ⟨uses, .granted round (congrArg Prod.fst granted), ?_⟩
    rw [converse_of_answered same, granted]
  | case5 looks e frame s reply s' answers next e' handled ih =>
    obtain ⟨uses, round, same⟩ := round_recorded channel shutdown looks frame s log
    rw [answers] at round same
    obtain ⟨more, rest, same'⟩ := ih (log ++ uses)
    refine ⟨uses ++ more, .next round handled rest, ?_⟩
    rw [converse_of_answered same, handled, ← List.append_assoc]
    exact same'

/-- What the uses of a channel and the result say of an exchange from a frame to send on: they are
those of a run of the machine. -/
structure Drives (shutdown : Nat → Bool) (e : Exchange) (frame : Stanza) (uses : List Use)
    (result : Awaited AuthFault Unit) : Prop where
  alternates : Alternates uses
  /-- All frames of the machine are sent, unless the signal comes before the last. -/
  sent : frames uses = due e frame uses
    ∨ shutdown uses.length = true ∧ frames uses = (due e frame uses).dropLast
  bounded : (due e frame uses).length ≤ e.phase.answersLeft + 1
  /-- Nothing follows what ends the exchange. -/
  last : GoesOn e uses.dropLast
  unseen : ∀ look < uses.length, shutdown look = false
  granted : result = .ready () ↔ .ok .done ∈ e.answers (replies uses)
  failed : ∀ why, result = .failed why ↔ .error why ∈ e.answers (replies uses)
    ∨ (∃ use ∈ uses, ∃ fault, use.fault? = some fault ∧ lost fault = why)
    ∨ GoesOn e uses ∧ shutdown uses.length = true ∧ .cancelled = why
  waiting : result = .waiting ↔ ∃ use ∈ uses, use.waits

section
variable {shutdown : Nat → Bool} {looks : Nat} {e e' : Exchange} {frame reply next : Stanza}
  {uses more : List Use} {result : Awaited AuthFault Unit} {why : AuthFault}

theorem unseen_one (unseen : shutdown 0 = false) :
    ∀ look < 1, shutdown look = false := by
  intro look first
  obtain rfl : look = 0 := by omega
  exact unseen

theorem unseen_two (unseen : shutdown 0 = false)
    (unseen' : shutdown 1 = false) : ∀ look < 2, shutdown look = false := by
  intro look first
  obtain rfl | rfl : look = 0 ∨ look = 1 := by omega
  · exact unseen
  · exact unseen'

theorem drives_of_unanswered (unanswered : replies uses = []) (alternates : Alternates uses)
    (sent : frames uses = [frame] ∨ shutdown uses.length = true ∧ frames uses = [])
    (last : GoesOn e uses.dropLast) (unseen : ∀ look < uses.length, shutdown look = false)
    (ungranted : result ≠ .ready ())
    (failed : ∀ why, result = .failed why ↔
      (∃ use ∈ uses, ∃ fault, use.fault? = some fault ∧ lost fault = why)
        ∨ GoesOn e uses ∧ shutdown uses.length = true ∧ .cancelled = why)
    (waiting : result = .waiting ↔ ∃ use ∈ uses, use.waits) :
    Drives shutdown e frame uses result where
  alternates := alternates
  sent := by
    rw [due, unanswered]
    exact sent
  bounded := by
    rw [due, unanswered]
    exact Nat.le_add_left _ _
  last := last
  unseen := unseen
  granted := by simp [unanswered, Exchange.answers, ungranted]
  failed := by simpa [unanswered, Exchange.answers] using failed
  waiting := waiting

theorem drives_of_failed (round : Round shutdown looks frame uses (.failed why)) (e : Exchange) :
    Drives (fun look => shutdown (looks + look)) e frame uses (.failed why) := by
  cases round with
  | stopped seen =>
    exact drives_of_unanswered rfl trivial (.inr ⟨seen, rfl⟩) trivial nofun (by simp)
      (by simp [GoesOn, seen]) (by simp)
  | unsent unseen =>
    exact drives_of_unanswered rfl trivial (.inl rfl) trivial (unseen_one unseen) (by simp)
      (by simp [GoesOn, Use.fault?]) (by simp [Use.waits])
  | stoppedThen unseen seen =>
    exact drives_of_unanswered rfl trivial (.inl rfl) trivial (unseen_one unseen) (by simp)
      (by simp [GoesOn, Use.fault?, seen]) (by simp [Use.waits])
  | unanswered unseen unseen' =>
    exact drives_of_unanswered rfl trivial (.inl rfl) trivial (unseen_two unseen unseen') (by simp)
      (by simp [GoesOn, Use.fault?]) (by simp [Use.waits])

theorem drives_of_waiting (round : Round shutdown looks frame uses .waiting) (e : Exchange) :
    Drives (fun look => shutdown (looks + look)) e frame uses .waiting := by
  cases round with
  | sending unseen =>
    exact drives_of_unanswered rfl trivial (.inl rfl) trivial (unseen_one unseen) (by simp)
      (by simp [GoesOn, Use.fault?]) (by simp [Use.waits])
  | receiving unseen unseen' =>
    exact drives_of_unanswered rfl trivial (.inl rfl) trivial (unseen_two unseen unseen') (by simp)
      (by simp [GoesOn, Use.fault?]) (by simp [Use.waits])

theorem drives_of_ended {answer : Except AuthFault AuthStep} (unseen : shutdown 0 = false)
    (unseen' : shutdown 1 = false) (handled : (e.handle reply).1 = answer)
    (ends : onward? answer = none) (granted : result = .ready () ↔ .ok .done = answer)
    (refused : ∀ why, result = .failed why ↔ .error why = answer) (done : result ≠ .waiting) :
    Drives shutdown e frame [.sent frame (.ready ()), .received (.ready reply)] result where
  alternates := trivial
  sent := .inl (by simp [due, Exchange.answers, handled, ends])
  bounded := by simp [due, Exchange.answers, handled, ends]
  last := trivial
  unseen := unseen_two unseen unseen'
  granted := by simp [Exchange.answers, handled, granted]
  failed why := by simp [Exchange.answers, handled, refused, ends, Use.fault?, GoesOn]
  waiting := by simp [Use.waits, done]

theorem due_of_answered (handled : e.handle reply = (.ok (.send next), e')) :
    due e frame (.sent frame (.ready ()) :: .received (.ready reply) :: more) =
      frame :: due e' next more := by
  simp [due, Exchange.answers, handled, onward?]

theorem drives_of_answered (unseen : shutdown 0 = false) (unseen' : shutdown 1 = false)
    (handled : e.handle reply = (.ok (.send next), e'))
    (rest : Drives (fun look => shutdown (look + 2)) e' next more result) :
    Drives shutdown e frame (.sent frame (.ready ()) :: .received (.ready reply) :: more) result where
  alternates := rest.alternates
  sent := by
    rw [due_of_answered handled, frames_sent, frames_received]
    rcases rest.sent with all | ⟨seen, butLast⟩
    · exact .inl (by rw [all])
    · refine .inr ⟨seen, ?_⟩
      rw [butLast]
      rfl
  bounded := by
    have fewer := Exchange.answersLeft_of_handle handled
    have bounded := rest.bounded
    rw [due_of_answered handled, List.length_cons]
    omega
  last := by
    cases more with
    | nil => trivial
    | cons use more =>
      have last := rest.last
      simp only [List.dropLast_cons_cons, GoesOn, handled, onward?, Option.isSome_some, true_and]
      exact last
  unseen look before := by
    match look with
    | 0 => exact unseen
    | 1 => exact unseen'
    | look + 2 => exact rest.unseen look (by simpa using before)
  granted := by
    simp [Exchange.answers, handled, rest.granted]
  failed why := by
    rw [rest.failed why]
    simp [Exchange.answers, handled, GoesOn, onward?, Use.fault?]
  waiting := by
    rw [rest.waiting]
    simp [Use.waits]

theorem drives_of_conversation {looks : Nat}
    (conversation : Conversation shutdown looks e frame uses result) :
    Drives (fun look => shutdown (looks + look)) e frame uses result := by
  -- On the rounds, the looks at the signal being counted from each round on.
  induction conversation with
  | failed round => exact drives_of_failed round _
  | waiting round => exact drives_of_waiting round _
  | refused round refused =>
    cases round with
    | answered unseen unseen' =>
      exact drives_of_ended unseen unseen' refused rfl (by simp) (by simp [eq_comm]) nofun
  | granted round granted =>
    cases round with
    | answered unseen unseen' =>
      exact drives_of_ended unseen unseen' granted rfl (by simp) (by simp) nofun
  | next round handled rest ih =>
    cases round with
    | answered unseen unseen' =>
      rw [List.cons_append, List.cons_append, List.nil_append]
      refine drives_of_answered unseen unseen' handled ?_
      simpa only [Nat.add_assoc, Nat.add_comm 2] using ih

end

theorem frames_length_le {shutdown : Nat → Bool} {e : Exchange} {frame : Stanza} {uses : List Use}
    {result : Awaited AuthFault Unit} (drives : Drives shutdown e frame uses result) :
    (frames uses).length ≤ (due e frame uses).length := by
  rcases drives.sent with all | ⟨-, butLast⟩
  · exact Nat.le_of_eq (congrArg List.length all)
  · rw [butLast, List.length_dropLast]
    omega

inductive Rounds (channel : Channel σ) : σ → List Stanza → List Stanza → σ → Prop where
  | none {s : σ} : Rounds channel s [] [] s
  | next {s s' s'' last : σ} {frame reply : Stanza} {frames replies : List Stanza}
      (sent : channel.send frame s = (.ready (), s'))
      (received : channel.recv s' = (.ready reply, s''))
      (rest : Rounds channel s'' frames replies last) :
      Rounds channel s (frame :: frames) (reply :: replies) last

theorem round_of_ready {channel : Channel σ} {shutdown : Nat → Bool} {looks : Nat}
    {frame reply : Stanza} {s s'' : σ}
    (answers : round channel shutdown looks frame s = (.ready reply, s'')) :
    ∃ s', channel.send frame s = (.ready (), s') ∧ channel.recv s' = (.ready reply, s'') := by
  rw [round_eq] at answers
  split at answers
  · cases answers
  split at answers
  · cases answers
  · cases answers
  next s' sent =>
  split at answers
  · cases answers
  refine ⟨s', sent, ?_⟩
  generalize channel.recv s' = received at answers ⊢
  obtain ⟨outcome, last⟩ := received
  cases outcome with
  | ready value =>
    cases answers
    rfl
  | failed why => cases answers
  | waiting => cases answers

theorem converse_granted {channel : Channel σ} {shutdown : Nat → Bool} {looks : Nat} {e : Exchange}
    {frame : Stanza} {s last : σ}
    (granted : converse channel shutdown looks e frame s = (.ready (), last)) :
    ∃ frames replies, Rounds channel s (frame :: frames) replies last ∧ e.Grants replies frames := by
  fun_induction converse channel shutdown looks e frame s with
  | case1 => cases granted
  | case2 => cases granted
  | case3 => cases granted
  | case4 looks e frame s reply s'' answers e' done =>
    cases granted
    obtain ⟨s', sent, received⟩ := round_of_ready answers
    exact ⟨[], [reply], .next sent received .none, .last done⟩
  | case5 looks e frame s reply s'' answers next e' handled ih =>
    obtain ⟨s', sent, received⟩ := round_of_ready answers
    obtain ⟨frames, replies, rest, grants⟩ := ih granted
    exact ⟨next :: frames, reply :: replies, .next sent received rest, .next handled grants⟩

theorem answersLeft_of_start {e begun : Exchange} {offered : List String}
    {source : CredentialSource τ} {t t' : τ} {frame : Stanza}
    (started : e.start offered source t = (.ok frame, begun, t')) :
    begun.mechanism? = some .plain ∧ begun.phase.answersLeft = 0
      ∨ begun.mechanism? = some .digestMd5 ∧ begun.phase.answersLeft = 2 := by
  have cases_ := e.start_cases offered source t
  rw [started] at cases_
  rcases cases_ with ⟨m, _, _, -, -, -, -, -, rfl⟩ | ⟨why, refused, -⟩
  · cases m with
    | plain => exact .inl ⟨rfl, rfl⟩
    | digestMd5 => exact .inr ⟨rfl, rfl⟩
  · cases refused

section
variable {channel : Channel σ} {e begun : Exchange} {offered : List String}
  {source : CredentialSource τ} {t t' : τ}

theorem authenticate_of_refused {why : AuthFault}
    (started : e.start offered source t = (.error why, begun, t')) (shutdown : Nat → Bool) (s : σ) :
    authenticate channel shutdown e offered source t s = (.failed why, s) := by
  rw [authenticate, started]
  rfl

theorem authenticate_of_started {frame : Stanza}
    (started : e.start offered source t = (.ok frame, begun, t')) (shutdown : Nat → Bool) (s : σ) :
    authenticate channel shutdown e offered source t s =
      converse channel shutdown 0 begun frame s := by
  rw [authenticate, started]

end

/-- An exchange over any channel does with it what a run of the machine says: nothing where the
start is refused, and else rounds of one frame sent and one received, at most one of them with PLAIN
and at most three with DIGEST-MD5. A signal that comes while a transfer waits ends it as well. -/
theorem authenticate_drives (channel : Channel σ) (shutdown : Nat → Bool) (options : AuthOptions)
    (clientNonce : String) (offered : List String) (source : CredentialSource τ) (t : τ) (s : σ) :
    let e := Exchange.fresh options clientNonce
    let run := authenticate (recorded channel) shutdown e offered source t (s, [])
    let uses := run.2.2
    authenticate channel shutdown e offered source t s = (run.1, run.2.1)
      ∧ (∀ why, (e.start offered source t).1 = .error why → uses = [] ∧ run.1 = .failed why)
      ∧ (∀ frame, (e.start offered source t).1 = .ok frame →
        let begun := (e.start offered source t).2.1
        Drives shutdown begun frame uses run.1
          ∧ (frames uses).length ≤ (due begun frame uses).length
          ∧ (begun.mechanism? = some .plain ∧ (due begun frame uses).length ≤ 1
            ∨ begun.mechanism? = some .digestMd5 ∧ (due begun frame uses).length ≤ 3))
      ∧ (run.1.within .cancelled = .failed .cancelled ↔
        run.1 = .failed .cancelled ∨ ∃ use ∈ uses, use.waits) := by
  intro e run uses
  rcases started : e.start offered source t with ⟨first, begun, t'⟩
  dsimp only
  cases first with
  | error why =>
    have refused : run = (.failed why, s, []) := authenticate_of_refused started shutdown (s, [])
    simp only [uses, refused, authenticate_of_refused started]
    refine ⟨trivial, ?_, nofun, by simp [Awaited.within]⟩
    rintro why' ⟨⟩
    exact ⟨trivial, rfl⟩
  | ok frame =>
    obtain ⟨uses', conversation, same⟩ := converse_recorded channel shutdown 0 begun frame s []
    have ran : run = _ := (authenticate_of_started started shutdown (s, [])).trans same
    have drives : Drives shutdown begun frame uses run.1 := by
      have drives := drives_of_conversation conversation
      simp only [Nat.zero_add] at drives
      simp only [uses, ran, List.nil_append]
      exact drives
    refine ⟨?_, nofun, ?_, ?_⟩
    · rw [ran, authenticate_of_started started]
    · rintro frame' ⟨⟩
      refine ⟨drives, frames_length_le drives, ?_⟩
      have bounded := drives.bounded
      rcases answersLeft_of_start started with ⟨plain, left⟩ | ⟨digest, left⟩
      · rw [left] at bounded
        exact .inl ⟨plain, bounded⟩
      · rw [left] at bounded
        exact .inr ⟨digest, bounded⟩
    · rw [← drives.waiting]
      cases run.1 with
      | ready => simp [Awaited.within]
      | failed why => simp [Awaited.within]
      | waiting => simp [Awaited.within]

end Authenticate

end XmppStream
