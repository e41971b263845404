import XmppStream.Proofs.Reader.Limit
import XmppStream.Proofs.Reader.Stacks

/-! What the pushes of a stream show. A limit only ever cuts them short: a larger one shows the same
up to the push that the smaller one refuses for its size, and in that push what the smaller one
delivers comes first. -/

namespace XmppStream.Reader
open Markup

/-- What can be seen of a push: what it delivers, why it fails if it does, and where it leads. -/
structure Report where
  events : List Event
  fault : Option ReaderFault
  depth : Nat
  finished : Bool
deriving DecidableEq

def Report.Overflows (p : Report) : Prop := ∃ e, p.fault = some e ∧ e.Overflows

def reportOf (pushed : Reader × List Event) : Report :=
  ⟨pushed.2, pushed.1.fault, pushed.1.depth, pushed.1.finished⟩

/-- What pushes one after another show. Those after a failed one fail as it did. -/
def reports (r : Reader) : List Bytes → List Report
  | [] => []
  | data :: pieces => reportOf (r.push data) :: (r.push data).1.reports pieces

def limited (r : Reader) (limit : Nat) : Reader := { r with limit }

def Overflown (r : Reader) : Prop := ∃ e, r.fault = some e ∧ e.Overflows

section
variable {r : Reader} {limit : Nat}

theorem apply_limited (t : Token) : (r.limited limit).apply t =
    (r.apply t).map fun taken => (taken.1.limited limit, taken.2) := by
  have same : (r.limited limit).apply t = recasts limit r.kept r.charged r.fault (r.apply t) :=
    apply_recast r limit r.kept r.charged r.fault t
  rw [same]
  cases h : r.apply t with
  | error e => rfl
  | ok taken =>
    obtain ⟨charged, fault⟩ := charged_apply h
    dsimp only [recasts, Except.map]
    rw [← (SameSetting.apply h).kept, ← charged, ← fault]
    rfl

theorem charge_limited (le : r.limit ≤ limit) {size : Nat} (fine : ¬ (r.charge size).Overflown) :
    (r.limited limit).charge size = (r.charge size).limited limit := by
  by_cases closed : r.nodes = []
  · rw [charge_of_closed closed, charge_of_closed (r := r.limited limit) closed]
    rfl
  · have fits : r.charged + size ≤ r.limit := by
      by_contra large
      rw [charge, if_neg closed] at fine
      dsimp only at fine
      rw [if_pos (Nat.lt_of_not_le large)] at fine
      exact fine ⟨_, rfl, _, _, rfl⟩
    rw [charge_of_fits fits, charge_of_fits (r := r.limited limit) (fits.trans le)]
    rfl

theorem step_limited (le : r.limit ≤ limit) {x : Lexeme} (fine : ¬ (r.step x).1.Overflown) :
    (r.limited limit).step x = ((r.step x).1.limited limit, (r.step x).2) := by
  unfold step at *
  rw [apply_limited, show (r.limited limit).fault = r.fault from rfl]
  split_ifs at * with failed
  · rfl
  · cases h : r.apply x.token with
    | error e => rfl
    | ok taken =>
      rw [h] at fine
      have le' : taken.1.limit ≤ limit := by rwa [(SameSetting.apply h).limit]
      dsimp only [Except.map] at fine ⊢
      rw [charge_limited le' fine]

theorem events_step_limited (x : Lexeme) : ((r.limited limit).step x).2 = (r.step x).2 := by
  unfold step
  rw [apply_limited, show (r.limited limit).fault = r.fault from rfl]
  split_ifs with failed
  · rfl
  · cases r.apply x.token <;> rfl

theorem overflown_steps {xs : List Lexeme} (h : r.Overflown) : (r.steps xs).1.Overflown := by
  obtain ⟨e, fault, large⟩ := h
  rw [steps_of_fault (by rw [fault]; rfl)]
  exact ⟨e, fault, large⟩

theorem steps_limited (le : r.limit ≤ limit) {xs : List Lexeme}
    (fine : ¬ (r.steps xs).1.Overflown) :
    (r.limited limit).steps xs = ((r.steps xs).1.limited limit, (r.steps xs).2) := by
  induction xs generalizing r with
  | nil => rfl
  | cons x xs ih =>
    have first := step_limited le (mt overflown_steps fine)
    have le' : (r.step x).1.limit ≤ limit := by rwa [(SameSetting.step r x).limit]
    rw [steps, first, ih le' fine, steps]

theorem events_steps_limited (le : r.limit ≤ limit) (xs : List Lexeme) :
    (r.steps xs).2 <+: ((r.limited limit).steps xs).2 := by
  induction xs generalizing r with
  | nil => exact List.nil_prefix
  | cons x xs ih =>
    rw [steps, steps, events_step_limited]
    refine List.prefix_append_right_inj _ |>.2 ?_
    by_cases overflown : (r.step x).1.Overflown
    · -- Nothing comes out after the token that is too much.
      obtain ⟨e, fault, -⟩ := overflown
      rw [steps_of_fault (by rw [fault]; rfl)]
      exact List.nil_prefix
    · rw [step_limited le overflown]
      exact ih (by rwa [(SameSetting.step r x).limit])

theorem endingFault_limited {small : Nat} (le : small ≤ limit) {left : Bytes} {ending : Ending}
    (fine : ∀ e, endingFault small left ending = some e → ¬ e.Overflows) :
    endingFault limit left ending = endingFault small left ending := by
  rw [endingFault] at fine
  rw [endingFault, endingFault]
  split_ifs at fine ⊢ with unnamed unknown large overflown overflown
  · rfl
  · rfl
  · exact absurd ⟨_, _, rfl⟩ (fine _ rfl)
  · omega
  · exact absurd ⟨_, _, rfl⟩ (fine _ rfl)
  · rfl

/-- A push that is not refused for its size is the same below a larger limit. -/
theorem push_limited (le : r.limit ≤ limit) {data : Bytes} (fine : ¬ (r.push data).1.Overflown) :
    (r.limited limit).push data = ((r.push data).1.limited limit, (r.push data).2) := by
  cases ready : r.fault with
  | some e =>
    have failed : r.fault.isSome := by rw [ready]; rfl
    rw [push_of_fault failed, push_of_fault (r := r.limited limit) failed]
  | none =>
    have ready' : (r.limited limit).fault = none := ready
    have setting := SameSetting.steps (r.keeping []) (tokens (r.kept ++ data)).1
    rw [push_eq_settle ready] at fine ⊢
    rw [push_eq_settle ready', show (r.limited limit).keeping [] = (r.keeping []).limited limit from rfl,
      show (r.limited limit).kept = r.kept from rfl]
    generalize (tokens (r.kept ++ data)).2 = ending at *
    generalize (r.kept ++ data).drop _ = left at *
    -- A push is refused for its size by a token or by what it keeps, and here by neither.
    have taken : ¬ ((r.keeping []).steps (tokens (r.kept ++ data)).1).1.Overflown := by
      rintro ⟨e, fault, large⟩
      exact fine ⟨e, by rw [fault_settle, fault, Option.some_or], large⟩
    rw [steps_limited (r := r.keeping []) le taken]
    generalize (r.keeping []).steps (tokens (r.kept ++ data)).1 = ran at *
    have ended : ran.1.fault.or (endingFault limit left ending) =
        ran.1.fault.or (endingFault ran.1.limit left ending) := by
      cases fault : ran.1.fault with
      | some e => rfl
      | none =>
        have le' : ran.1.limit ≤ limit := by rwa [setting.limit]
        rw [Option.none_or, Option.none_or, endingFault_limited le']
        intro e refused large
        exact fine ⟨e, by rw [fault_settle, fault, refused, Option.none_or], large⟩
    unfold settle
    rw [show (ran.1.limited limit).fault = ran.1.fault from rfl,
      show (ran.1.limited limit).limit = limit from rfl, ended]
    rfl

theorem events_push_limited (le : r.limit ≤ limit) (data : Bytes) :
    (r.push data).2 <+: ((r.limited limit).push data).2 := by
  cases ready : r.fault with
  | some e =>
    rw [push_of_fault (by rw [ready]; rfl)]
    exact List.nil_prefix
  | none =>
    have ready' : (r.limited limit).fault = none := ready
    rw [push_eq_settle ready, push_eq_settle ready']
    exact events_steps_limited (r := r.keeping []) le _

end

theorem limit_push (r : Reader) (data : Bytes) : (r.push data).1.limit = r.limit := by
  have same := congrArg Reader.limit (reset_push r data)
  exact same

theorem reports_limited {r : Reader} {limit : Nat} (le : r.limit ≤ limit) (pieces : List Bytes) :
    (r.reports pieces = (r.limited limit).reports pieces
        ∧ ∀ p ∈ r.reports pieces, ¬ p.Overflows)
      ∨ ∃ before p after q after', r.reports pieces = before ++ p :: after
        ∧ (r.limited limit).reports pieces = before ++ q :: after'
        ∧ (∀ p ∈ before, ¬ p.Overflows) ∧ p.Overflows ∧ p.events <+: q.events := by
  induction pieces generalizing r with
  | nil => exact .inl ⟨rfl, by simp [reports]⟩
  | cons data pieces ih =>
    by_cases overflown : (r.push data).1.Overflown
    · -- From here on the two differ, so this is the push to name.
      refine .inr ⟨[], _, _, _, _, rfl, rfl, by simp, overflown, ?_⟩
      exact events_push_limited le data
    · have same := push_limited le overflown
      have le' : (r.push data).1.limit ≤ limit := by rwa [limit_push]
      have first : reportOf ((r.limited limit).push data) = reportOf (r.push data) := by
        rw [same]
        rfl
      rw [reports, reports, first, same]
      rcases ih le' with ⟨rest, fine⟩ | ⟨before, p, after, q, after', rest, rest', fine, cut⟩
      · exact .inl ⟨by rw [rest], List.forall_mem_cons.2 ⟨overflown, fine⟩⟩
      · refine .inr ⟨reportOf (r.push data) :: before, p, after, q, after', ?_, ?_, ?_, cut⟩
        · rw [rest, List.cons_append]
        · rw [rest', List.cons_append]
        · exact List.forall_mem_cons.2 ⟨overflown, fine⟩

theorem limit_run (r : Reader) (ts : List Token) : (r.run ts).1.limit = r.limit := by
  induction ts generalizing r with
  | nil => rfl
  | cons t ts ih =>
    cases h : r.apply t with
    | error e => rw [run_of_error h]
    | ok taken => rw [run_of_ok h, ih, (SameSetting.apply h).limit]

theorem report_push_of_room {r : Reader} {data : Bytes} (ready : r.fault = none) (kept : r.kept = [])
    (mark : ¬ byteOrderMark <+: data) (fits : r.charged + data.length ≤ r.limit) :
    reportOf (r.push data) =
      reportOf (settle (r.run ((lex data).1.map Lexeme.token)) (uncut data) (lex data).2) := by
  have whole := extent_add_uncut data
  have room : r.charged + extent (lex data).1 ≤ r.limit := by omega
  obtain ⟨c, -, run⟩ := steps_eq_run ready room
  rw [push_eq ready (by rwa [kept, List.nil_append]), kept, List.nil_append, keeping_eq_self kept, run]
  rfl

theorem kept_of_push {r : Reader} {data : Bytes} (ready : r.fault = none) (kept : r.kept = [])
    (mark : ¬ byteOrderMark <+: data) (fine : (r.push data).1.fault = none) :
    (r.push data).1.kept = uncut data := by
  have buffer : r.kept ++ data = data := by rw [kept, List.nil_append]
  rw [push_eq ready (by rwa [buffer]), fault_settle, Option.or_eq_none_iff] at fine
  rw [push_eq ready (by rwa [buffer]), settle_of_fine fine.1 fine.2, buffer]
  rfl

/-- What comes of an input at once where nothing is refused for its size. -/
def outcome (framing : Framing) (limit : Nat) (data : Bytes) : Reader × List Event :=
  settle ((fresh framing limit).run ((lex data).1.map Lexeme.token)) (uncut data) (lex data).2

theorem report_eq_outcome {framing : Framing} {limit : Nat} {data : Bytes}
    (mark : ¬ byteOrderMark <+: data) (fits : data.length ≤ limit) :
    reportOf ((fresh framing limit).push data) = reportOf (outcome framing limit data) :=
  report_push_of_room rfl rfl mark ((Nat.zero_add _).trans_le fits)

/-- A part that is cut for itself, after an input that is read to its end. -/
theorem outcome_between (framing : Framing) (limit : Nat) {before part after : Bytes}
    {xs : List Lexeme} (whole : uncut before = [])
    (cut : lex (part ++ after) = (xs ++ (lex after).1, (lex after).2)
      ∧ uncut (part ++ after) = uncut after) :
    outcome framing limit (before ++ (part ++ after)) =
      settle ((fresh framing limit).run ((lex before).1.map Lexeme.token
        ++ (xs.map Lexeme.token ++ (lex after).1.map Lexeme.token))) (uncut after) (lex after).2 := by
  rw [outcome, lex_append, uncut_append, whole, List.nil_append, cut.1, cut.2, List.map_append,
    List.map_append]

theorem byteOrderMark_before {before more : Bytes} (mark : byteOrderMark <+: before ++ 0x3C :: more) :
    byteOrderMark <+: before := by
  by_cases short : 3 ≤ before.length
  · exact List.prefix_of_prefix_length_le mark (List.prefix_append _ _) short
  · have begins : before ++ [0x3C] <+: before ++ 0x3C :: more := ⟨more, by simp⟩
    have within : before ++ [0x3C] <+: byteOrderMark := by
      refine List.prefix_of_prefix_length_le begins mark ?_
      rw [List.length_append, List.length_singleton]
      show before.length + 1 ≤ 3
      omega
    have mem : (0x3C : UInt8) ∈ byteOrderMark := within.mem (by simp)
    exact absurd mem (by decide)

theorem run_append {r : Reader} (ready : r.fault = none) (ts us : List Token) :
    r.run (ts ++ us) =
      if (r.run ts).1.fault.isSome then r.run ts
      else (((r.run ts).1.run us).1, (r.run ts).2 ++ ((r.run ts).1.run us).2) := by
  induction ts generalizing r with
  | nil => simp [run, ready]
  | cons t ts ih =>
    rw [List.cons_append]
    cases h : r.apply t with
    | error e =>
      -- The run stops here, whatever would have come.
      rw [run_of_error h, run_of_error h]
      rfl
    | ok taken =>
      have ready' : taken.1.fault = none := (charged_apply h).2.trans ready
      rw [run_of_ok h, run_of_ok h, ih ready']
      dsimp only
      split_ifs
      · rfl
      · rw [List.append_assoc]

/-- Two limits show the same in push after push, as long as the smaller one refuses nothing for its
size. In the first push that it refuses so, what it still delivers is the beginning of what the
larger one delivers. -/
theorem reports_cut_short (framing : Framing) {small large : Nat} (le : small ≤ large)
    (pieces : List Bytes) :
    let below := (fresh framing small).reports pieces
    let above := (fresh framing large).reports pieces
    (below = above ∧ ∀ p ∈ below, ¬ p.Overflows)
      ∨ ∃ before p after q after', below = before ++ p :: after ∧ above = before ++ q :: after'
        ∧ (∀ p ∈ before, ¬ p.Overflows) ∧ p.Overflows ∧ p.events <+: q.events :=
  reports_limited (r := fresh framing small) le pieces

def longStanza : List Bytes := [Utf8.encode "<a/>", Utf8.encode "<b/><c>123456789</c>"]

theorem reports_cut_short_longStanza :
    ∃ before p after q after', (fresh .standalone 8).reports longStanza = before ++ p :: after
      ∧ (fresh .standalone 40).reports longStanza = before ++ q :: after'
      ∧ (∀ p ∈ before, ¬ p.Overflows) ∧ p.Overflows ∧ p.events <+: q.events := by
  obtain ⟨same, -⟩ | cut := reports_cut_short .standalone (show 8 ≤ 40 by decide) longStanza
  · exact absurd same (by decide +kernel)
  · exact cut

end XmppStream.Reader
