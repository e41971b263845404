import XmppStream.Proofs.Markup.Cutting
import XmppStream.Proofs.Reader.Moves

/-! Runs of the reader. A push takes the tokens of its buffer one after another, and then settles
what it keeps; a stream is pushed in pieces up to the first push that fails. -/

namespace XmppStream.Reader
open Markup

def fresh (framing : Framing) (limit : Nat) : Reader := { framing, limit }

def keeping (r : Reader) (left : Bytes) : Reader := { r with kept := left }

def step (r : Reader) (x : Lexeme) : Reader × List Event :=
  if r.fault.isSome then (r, [])
  else match r.apply x.token with
    | .error e => ({ r with fault := some e }, [])
    | .ok (r, events) => (r.charge x.size, events)

def steps (r : Reader) : List Lexeme → Reader × List Event
  | [] => (r, [])
  | x :: xs => (((r.step x).1.steps xs).1, (r.step x).2 ++ ((r.step x).1.steps xs).2)

/-- Pushes pieces of a stream one after another, up to the first push that fails. -/
def pushAll (r : Reader) : List Bytes → Reader × List Event
  | [] => (r, [])
  | data :: pieces =>
    if (r.push data).1.fault.isSome then r.push data
    else (((r.push data).1.pushAll pieces).1,
      (r.push data).2 ++ ((r.push data).1.pushAll pieces).2)

/-- The push takes all tokens that are complete, and fails for the number of bytes that it would
keep after them. -/
def KeepsTooMuch (r : Reader) (data : Bytes) : Prop :=
  let lexemes := (tokens (r.kept ++ data)).1
  let left := (r.kept ++ data).drop (extent lexemes)
  r.fault = none ∧ ((r.keeping []).steps lexemes).1.fault = none
    ∧ (r.push data).1.fault = some (.overflow left.length r.limit)

instance (r : Reader) (data : Bytes) : Decidable (r.KeepsTooMuch data) :=
  inferInstanceAs (Decidable (_ ∧ _ ∧ _))

/-- No push of a stream in pieces fails for the number of bytes that it would keep. -/
def NeverKeepsTooMuch (r : Reader) : List Bytes → Prop
  | [] => True
  | data :: pieces => ¬ r.KeepsTooMuch data ∧ (r.push data).1.NeverKeepsTooMuch pieces

instance decidableNeverKeepsTooMuch (r : Reader) :
    (pieces : List Bytes) → Decidable (r.NeverKeepsTooMuch pieces)
  | [] => isTrue trivial
  | data :: pieces =>
    have := decidableNeverKeepsTooMuch (r.push data).1 pieces
    inferInstanceAs (Decidable (_ ∧ _))

@[simp]
theorem fault_keeping (r : Reader) (left : Bytes) : (r.keeping left).fault = r.fault := rfl

@[simp]
theorem keeping_keeping (r : Reader) (left left' : Bytes) :
    (r.keeping left).keeping left' = r.keeping left' := rfl

theorem keeping_eq_self {r : Reader} {left : Bytes} (h : r.kept = left) : r.keeping left = r := by
  rw [← h]
  rfl

theorem step_of_fault {r : Reader} (h : r.fault.isSome) (x : Lexeme) : r.step x = (r, []) := by
  rw [step, if_pos h]

theorem steps_of_fault {r : Reader} (h : r.fault.isSome) (xs : List Lexeme) :
    r.steps xs = (r, []) := by
  induction xs with
  | nil => rfl
  | cons x xs ih => rw [steps, step_of_fault h, ih, List.nil_append]

theorem steps_append (r : Reader) (xs ys : List Lexeme) :
    r.steps (xs ++ ys) =
      (((r.steps xs).1.steps ys).1, (r.steps xs).2 ++ ((r.steps xs).1.steps ys).2) := by
  induction xs generalizing r with
  | nil => rfl
  | cons x xs ih => simp only [List.cons_append, steps, ih, List.append_assoc]

theorem push_of_fault {r : Reader} (h : r.fault.isSome) (data : Bytes) : r.push data = (r, []) := by
  rw [push, if_pos h]

theorem pushAll_of_fault {r : Reader} (h : r.fault.isSome) (pieces : List Bytes) :
    r.pushAll pieces = (r, []) := by
  cases pieces with
  | nil => rfl
  | cons data pieces => rw [pushAll, push_of_fault h, if_pos h]

theorem pushAll_append (r : Reader) (pieces more : List Bytes) :
    r.pushAll (pieces ++ more) = (((r.pushAll pieces).1.pushAll more).1,
      (r.pushAll pieces).2 ++ ((r.pushAll pieces).1.pushAll more).2) := by
  induction pieces generalizing r with
  | nil => rfl
  | cons data pieces ih =>
    rw [List.cons_append, pushAll, pushAll]
    split_ifs with failed
    · rw [pushAll_of_fault failed, List.append_nil]
    · rw [ih, List.append_assoc]

theorem pushAll_singleton (r : Reader) (data : Bytes) : r.pushAll [data] = r.push data := by
  rw [pushAll, pushAll, List.append_nil]
  split_ifs <;> rfl

theorem pushAll_concat (r : Reader) (pieces : List Bytes) (data : Bytes) :
    r.pushAll (pieces ++ [data]) = (((r.pushAll pieces).1.push data).1,
      (r.pushAll pieces).2 ++ ((r.pushAll pieces).1.push data).2) := by
  rw [pushAll_append, pushAll_singleton]

theorem fault_of_steps {r : Reader} {xs : List Lexeme} (h : (r.steps xs).1.fault = none) :
    r.fault = none := by
  cases hr : r.fault with
  | none => rfl
  | some e =>
    rw [steps_of_fault (by rw [hr]; rfl), hr] at h
    cases h

structure SameSetting (r r' : Reader) : Prop where
  framing : r'.framing = r.framing
  limit : r'.limit = r.limit
  kept : r'.kept = r.kept

namespace SameSetting

theorem refl (r : Reader) : SameSetting r r := ⟨rfl, rfl, rfl⟩

theorem trans {r r' r'' : Reader} (h : SameSetting r r') (h' : SameSetting r' r'') :
    SameSetting r r'' :=
  ⟨h'.framing.trans h.framing, h'.limit.trans h.limit, h'.kept.trans h.kept⟩

theorem opening {r r' : Reader} {content : Bytes} {events : List Event}
    (h : r.opening content = .ok (r', events)) : SameSetting r r' := by
  obtain ⟨-, -, name, t, -, -, opens⟩ := opens_of_opening h
  cases opens <;> exact ⟨rfl, rfl, rfl⟩

theorem closing {r r' : Reader} {name : Bytes} {events : List Event}
    (h : r.closing name = .ok (r', events)) : SameSetting r r' := by
  obtain ⟨opened, names, -, -, leaves⟩ := leaves_of_closing h
  cases leaves <;> exact ⟨rfl, rfl, rfl⟩

theorem characters {r r' : Reader} {text : String} {events : List Event}
    (h : r.characters text = .ok (r', events)) : SameSetting r r' := by
  obtain ⟨-, ⟨n, nodes, inner, rfl⟩ | rfl⟩ := characters_cases h
  · exact ⟨rfl, rfl, rfl⟩
  · exact refl _

theorem apply {r r' : Reader} {t : Token} {events : List Event}
    (h : r.apply t = .ok (r', events)) : SameSetting r r' := by
  cases t with
  | opening content => exact opening h
  | closing name => exact closing h
  | empty content =>
    obtain ⟨inside, first, second, opens, closes, -⟩ := emptyTag_cases h
    exact (opening opens).trans (closing closes)
  | text raw =>
    rw [Reader.apply] at h
    split at h
    · cases h
    · exact characters h
  | cdata raw =>
    rw [Reader.apply] at h
    split at h
    · cases h
    · exact characters h
  | ignored =>
    cases h
    exact refl r

theorem charge (r : Reader) (size : Nat) : SameSetting r (r.charge size) := by
  rw [Reader.charge]
  dsimp only
  split_ifs <;> exact ⟨rfl, rfl, rfl⟩

theorem step (r : Reader) (x : Lexeme) : SameSetting r (r.step x).1 := by
  rw [Reader.step]
  split_ifs
  · exact refl r
  · split
    · exact ⟨rfl, rfl, rfl⟩
    · next h => exact (apply h).trans (charge _ _)

theorem steps (r : Reader) (xs : List Lexeme) : SameSetting r (r.steps xs).1 := by
  induction xs generalizing r with
  | nil => exact refl r
  | cons x xs ih => exact (step r x).trans (ih _)

end SameSetting

theorem take_eq_step (p : Progress) (x : Lexeme) :
    (p.take x).reader = (p.reader.step x).1
      ∧ (p.take x).events = (p.reader.step x).2.reverse ++ p.events := by
  rw [Progress.take, step]
  split_ifs
  · exact ⟨rfl, rfl⟩
  · cases p.reader.apply x.token with
    | error e => exact ⟨rfl, rfl⟩
    | ok taken => exact ⟨rfl, rfl⟩

theorem consumed_take {p : Progress} {x : Lexeme} (h : (p.reader.step x).1.fault = none) :
    (p.take x).consumed = p.consumed + x.size := by
  rw [step] at h
  rw [Progress.take]
  split_ifs at h ⊢ with hf
  · rw [h] at hf
    cases hf
  · cases taken : p.reader.apply x.token with
    | error e =>
      rw [taken] at h
      cases h
    | ok result => rfl

theorem foldl_take (p : Progress) (xs : List Lexeme) :
    (xs.foldl Progress.take p).reader = (p.reader.steps xs).1
      ∧ (xs.foldl Progress.take p).events = (p.reader.steps xs).2.reverse ++ p.events := by
  induction xs generalizing p with
  | nil => exact ⟨rfl, rfl⟩
  | cons x xs ih =>
    have turn := take_eq_step p x
    rw [List.foldl_cons, (ih _).1, (ih _).2, turn.1, turn.2, steps]
    simp only [List.reverse_append, List.append_assoc, and_self]

theorem consumed_foldl_take {p : Progress} {xs : List Lexeme}
    (h : (p.reader.steps xs).1.fault = none) :
    (xs.foldl Progress.take p).consumed = p.consumed + extent xs := by
  induction xs generalizing p with
  | nil => rfl
  | cons x xs ih =>
    rw [steps] at h
    have turn := (take_eq_step p x).1
    rw [List.foldl_cons, ih (by rw [turn]; exact h), consumed_take (fault_of_steps h), extent_cons,
      Nat.add_assoc]

def settle (taken : Reader × List Event) (left : Bytes) (ending : Ending) : Reader × List Event :=
  let fault := taken.1.fault.or (endingFault taken.1.limit left ending)
  ({ taken.1 with kept := if fault.isSome then [] else left, fault }, taken.2)

theorem settle_of_fault {taken : Reader × List Event} (h : taken.1.fault.isSome) (left left' : Bytes)
    (ending ending' : Ending) : settle taken left ending = settle taken left' ending' := by
  cases hf : taken.1.fault with
  | none => simp [hf] at h
  | some e => simp only [settle, hf, Option.some_or, Option.isSome_some, if_true]

theorem settle_of_fine {taken : Reader × List Event} {left : Bytes} {ending : Ending}
    (ready : taken.1.fault = none) (fine : endingFault taken.1.limit left ending = none) :
    settle taken left ending = (taken.1.keeping left, taken.2) := by
  obtain ⟨r, events⟩ := taken
  cases r
  dsimp only at ready
  subst ready
  rw [settle, fine]
  rfl

theorem fault_settle (taken : Reader × List Event) (left : Bytes) (ending : Ending) :
    (settle taken left ending).1.fault =
      taken.1.fault.or (endingFault taken.1.limit left ending) := rfl

/-- A push takes the tokens of its buffer one after another, and then settles what is left. -/
theorem push_eq_settle {r : Reader} {data : Bytes} (ready : r.fault = none) :
    r.push data = settle ((r.keeping []).steps (tokens (r.kept ++ data)).1)
      ((r.kept ++ data).drop (extent (tokens (r.kept ++ data)).1)) (tokens (r.kept ++ data)).2 := by
  have setting := SameSetting.steps (r.keeping []) (tokens (r.kept ++ data)).1
  rw [push, if_neg (by rw [ready]; simp)]
  dsimp only
  rw [settle, ← keeping]
  dsimp only
  rw [(foldl_take _ _).1, (foldl_take _ _).2, setting.limit, List.append_nil, List.reverse_reverse]
  cases hf : ((r.keeping []).steps (tokens (r.kept ++ data)).1).1.fault with
  | some e => rfl
  | none =>
    rw [consumed_foldl_take hf, Nat.zero_add]
    rfl

theorem tokens_of_no_mark {buffer : Bytes} (h : ¬ byteOrderMark <+: buffer) :
    tokens buffer = lex buffer := by
  rw [tokens, if_neg (by rwa [List.isPrefixOf_iff_prefix])]

theorem push_eq {r : Reader} {data : Bytes} (ready : r.fault = none)
    (mark : ¬ byteOrderMark <+: r.kept ++ data) :
    r.push data = settle ((r.keeping []).steps (lex (r.kept ++ data)).1)
      (uncut (r.kept ++ data)) (lex (r.kept ++ data)).2 := by
  rw [push_eq_settle ready, tokens_of_no_mark mark, uncut]

theorem settle_complete {taken : Reader × List Event} (kept : taken.1.kept = []) :
    settle taken [] (.text []) = taken := by
  have fine : endingFault taken.1.limit [] (.text []) = none := rfl
  unfold settle
  rw [fine, Option.or_none]
  dsimp only
  rw [ite_self, ← kept]

theorem push_of_complete {r : Reader} {data : Bytes} (ready : r.fault = none) (kept : r.kept = [])
    (mark : ¬ byteOrderMark <+: data) (complete : (lex data).2 = .text []) :
    r.push data = r.steps (lex data).1 := by
  have left : uncut data = [] := by
    have ending := front_uncut data
    rw [complete] at ending
    exact (front_text ending).symm
  have buffer : r.kept ++ data = data := by rw [kept, List.nil_append]
  have kept' : (r.steps (lex data).1).1.kept = [] := (SameSetting.steps r _).kept.trans kept
  rw [push_eq ready (by rwa [buffer]), buffer, keeping_eq_self kept, left, complete,
    settle_complete kept']

end XmppStream.Reader
