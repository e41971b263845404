import XmppStream.Proofs.Reader.Run

/-! What a stanza is charged does not bear on how its tokens are read, and neither do the bytes that
were kept. A run of tokens that stays below the limit is a run that charges nothing. -/

namespace XmppStream.Reader
open Markup

/-- The reader with another limit, other bytes kept, another charge and another fault. -/
def recast (r : Reader) (limit : Nat) (kept : Bytes) (charged : Nat) (fault : Option ReaderFault) :
    Reader :=
  { r with limit, kept, charged, fault }

def beside (r : Reader) (kept : Bytes) (charged : Nat) (fault : Option ReaderFault) : Reader :=
  { r with kept, charged, fault }

def charging (r : Reader) (charged : Nat) : Reader := { r with charged }

/-- Takes tokens one after another up to a fault, and charges nothing for them. -/
def run (r : Reader) : List Token → Reader × List Event
  | [] => (r, [])
  | t :: ts =>
    match r.apply t with
    | .error e => ({ r with fault := some e }, [])
    | .ok taken => ((taken.1.run ts).1, taken.2 ++ (taken.1.run ts).2)

theorem run_of_error {r : Reader} {t : Token} {e : ReaderFault} (h : r.apply t = .error e)
    (ts : List Token) : r.run (t :: ts) = ({ r with fault := some e }, []) := by
  rw [run, h]

theorem run_of_ok {r r' : Reader} {t : Token} {events : List Event}
    (h : r.apply t = .ok (r', events)) (ts : List Token) :
    r.run (t :: ts) = ((r'.run ts).1, events ++ (r'.run ts).2) := by
  rw [run, h]

theorem run_of_quiet {r r' : Reader} {t : Token} (h : r.apply t = .ok (r', [])) (ts : List Token) :
    r.run (t :: ts) = r'.run ts := by
  rw [run_of_ok h, List.nil_append]

@[simp]
theorem charging_charging (r : Reader) (c c' : Nat) :
    (r.charging c).charging c' = r.charging c' := rfl

section
variable (r : Reader) (l : Nat) (k : Bytes) (c : Nat) (f : Option ReaderFault)

def recasts (taken : Except ReaderFault (Reader × List Event)) :
    Except ReaderFault (Reader × List Event) :=
  taken.map fun taken => (taken.1.recast l k c f, taken.2)

theorem enterTop_recast (t : StartTag) (ns : String) (prefixes : Table) :
    (r.recast l k c f).enterTop t ns prefixes = recasts l k c f (r.enterTop t ns prefixes) := by
  rw [enterTop, enterTop, show (r.recast l k c f).framing = r.framing from rfl]
  cases r.framing with
  | standalone => rfl
  | stream =>
    dsimp only
    split_ifs <;> rfl
  | webSocket =>
    dsimp only
    split_ifs <;> rfl

theorem opening_recast (content : Bytes) :
    (r.recast l k c f).opening content = recasts l k c f (r.opening content) := by
  rw [opening, opening]
  cases decodeName (tagName content) with
  | error e => rfl
  | ok name =>
    dsimp only
    rw [show (r.recast l k c f).finished = r.finished from rfl,
      show (r.recast l k c f).inFraming = r.inFraming from rfl]
    split_ifs
    · rfl
    · rfl
    cases StartTag.read name content with
    | error e => rfl
    | ok t =>
      dsimp only
      rw [startTag, startTag, show (r.recast l k c f).scopes = r.scopes from rfl,
        show (r.recast l k c f).depth = r.depth from rfl]
      cases t.elementNs (t.scope :: r.scopes) with
      | error e => rfl
      | ok ns =>
        dsimp only
        cases StartTag.attrPrefixes t.name (t.scope :: r.scopes) [] t.attrs with
        | error e => rfl
        | ok prefixes =>
          dsimp only
          split_ifs
          · exact enterTop_recast r l k c f t ns prefixes
          · rfl

theorem leave_recast (name : String) :
    (r.recast l k c f).leave name = recasts l k c f (r.leave name) := by
  rw [leave, leave, show (r.recast l k c f).inFraming = r.inFraming from rfl,
    show (r.recast l k c f).framing = r.framing from rfl,
    show (r.recast l k c f).depth = r.depth from rfl,
    show (r.recast l k c f).nodes = r.nodes from rfl]
  dsimp only
  split_ifs
  · rfl
  · rfl
  · rfl
  · rcases r.nodes with _ | ⟨n, _ | ⟨parent, nodes⟩⟩ <;> rfl

theorem closing_recast (name : Bytes) :
    (r.recast l k c f).closing name = recasts l k c f (r.closing name) := by
  rw [closing, closing]
  cases decodeName name with
  | error e => rfl
  | ok name =>
    dsimp only
    rw [endTag, endTag, show (r.recast l k c f).names = r.names from rfl]
    cases r.names with
    | nil => rfl
    | cons expected names =>
      dsimp only
      split_ifs
      · exact leave_recast { r with names, scopes := r.scopes.tail, depth := r.depth - 1 } l k c f
          name
      · rfl

theorem emptyTag_recast (content : Bytes) :
    (r.recast l k c f).emptyTag content = recasts l k c f (r.emptyTag content) := by
  rw [emptyTag, emptyTag, opening_recast]
  cases r.opening content with
  | error e => rfl
  | ok opened =>
    obtain ⟨inside, first⟩ := opened
    dsimp only [recasts, Except.map]
    rw [closing_recast]
    cases inside.closing (tagName content) <;> rfl

theorem characters_recast (text : String) :
    (r.recast l k c f).characters text = recasts l k c f (r.characters text) := by
  rw [characters, characters, show (r.recast l k c f).nodes = r.nodes from rfl,
    show (r.recast l k c f).finished = r.finished from rfl]
  cases r.nodes with
  | nil =>
    dsimp only
    split_ifs <;> rfl
  | cons n nodes => rfl

/-- No token looks at the limit, the kept bytes, the charge or the fault of the reader. -/
theorem apply_recast (t : Token) : (r.recast l k c f).apply t = recasts l k c f (r.apply t) := by
  cases t with
  | opening content => exact opening_recast r l k c f content
  | empty content => exact emptyTag_recast r l k c f content
  | closing name => exact closing_recast r l k c f name
  | text raw =>
    rw [apply, apply]
    cases decodeText raw with
    | error e => rfl
    | ok text => exact characters_recast r l k c f text
  | cdata raw =>
    rw [apply, apply]
    cases decodeName raw with
    | error e => rfl
    | ok text => exact characters_recast r l k c f text
  | ignored => rfl

def besides (taken : Except ReaderFault (Reader × List Event)) :
    Except ReaderFault (Reader × List Event) :=
  taken.map fun taken => (taken.1.beside k c f, taken.2)

theorem apply_beside (t : Token) : (r.beside k c f).apply t = besides k c f (r.apply t) := by
  have same : (r.beside k c f).apply t = recasts r.limit k c f (r.apply t) :=
    apply_recast r r.limit k c f t
  rw [same]
  cases h : r.apply t with
  | error e => rfl
  | ok taken =>
    dsimp only [recasts, besides, Except.map]
    rw [← (SameSetting.apply h).limit]
    rfl

end

theorem charged_apply {r r' : Reader} {t : Token} {events : List Event}
    (h : r.apply t = .ok (r', events)) : r'.charged = r.charged ∧ r'.fault = r.fault := by
  -- The reader is itself beside its own charge and fault.
  have same := apply_beside r r.kept r.charged r.fault t
  rw [show r.beside r.kept r.charged r.fault = r from rfl, h] at same
  have fixed := (Prod.mk.inj (Except.ok.inj same)).1
  rw [fixed]
  exact ⟨rfl, rfl⟩

theorem charge_keeping (r : Reader) (left : Bytes) (size : Nat) :
    (r.keeping left).charge size = (r.charge size).keeping left := by
  rw [charge, charge, show (r.keeping left).nodes = r.nodes from rfl,
    show (r.keeping left).limit = r.limit from rfl,
    show (r.keeping left).charged = r.charged from rfl]
  dsimp only
  split_ifs <;> rfl

theorem step_keeping (r : Reader) (left : Bytes) (x : Lexeme) :
    (r.keeping left).step x = ((r.step x).1.keeping left, (r.step x).2) := by
  have same : (r.keeping left).apply x.token = besides left r.charged r.fault (r.apply x.token) :=
    apply_beside r left r.charged r.fault x.token
  rw [step, step, fault_keeping]
  split_ifs
  · rfl
  · rw [same]
    cases h : r.apply x.token with
    | error e => rfl
    | ok taken =>
      obtain ⟨charged, fault⟩ := charged_apply h
      dsimp only [besides, Except.map]
      rw [← charged, ← fault]
      exact congrArg (·, taken.2) (charge_keeping taken.1 left x.size)

theorem steps_keeping (r : Reader) (left : Bytes) (xs : List Lexeme) :
    (r.keeping left).steps xs = ((r.steps xs).1.keeping left, (r.steps xs).2) := by
  induction xs generalizing r with
  | nil => rfl
  | cons x xs ih => rw [steps, steps, step_keeping, ih]

theorem run_charging (r : Reader) (c : Nat) (ts : List Token) :
    (r.charging c).run ts = ((r.run ts).1.charging c, (r.run ts).2) := by
  induction ts generalizing r with
  | nil => rfl
  | cons t ts ih =>
    have same : (r.charging c).apply t = besides r.kept c r.fault (r.apply t) :=
      apply_beside r r.kept c r.fault t
    -- No token reads the charge, so both runs are refused together.
    cases h : r.apply t with
    | error e =>
      rw [h] at same
      rw [run_of_error h, run_of_error same]
      rfl
    | ok taken =>
      obtain ⟨r', events⟩ := taken
      rw [h, ← (charged_apply h).2, ← (SameSetting.apply h).kept] at same
      have taken : (r.charging c).apply t = .ok (r'.charging c, events) := same
      rw [run_of_ok h, run_of_ok taken]
      exact congrArg (fun ran => (ran.1, events ++ ran.2)) (ih r')

theorem SameSetting.charging {r r' : Reader} (h : SameSetting r r') (c : Nat) :
    SameSetting r (r'.charging c) := ⟨h.framing, h.limit, h.kept⟩

theorem charge_of_fits {r : Reader} {size : Nat} (h : r.charged + size ≤ r.limit) :
    r.charge size = r.charging (if r.nodes = [] then 0 else r.charged + size) := by
  rw [charge]
  dsimp only
  split_ifs
  · rfl
  · omega
  · rfl

theorem charge_of_closed {r : Reader} (closed : r.nodes = []) (size : Nat) :
    r.charge size = r.charging 0 := by
  rw [charge, if_pos closed]
  rfl

theorem charge_of_open {r : Reader} {size : Nat} (open_ : r.nodes ≠ [])
    (fine : (r.charge size).fault = none) :
    r.charged + size ≤ r.limit ∧ r.charge size = r.charging (r.charged + size) := by
  rw [charge, if_neg open_] at fine ⊢
  dsimp only at fine ⊢
  split_ifs at fine ⊢ with large
  exact ⟨Nat.le_of_not_lt large, rfl⟩

theorem steps_eq_run {r : Reader} {xs : List Lexeme} (ready : r.fault = none)
    (fits : r.charged + extent xs ≤ r.limit) :
    ∃ c, c ≤ r.charged + extent xs
      ∧ r.steps xs =
        ((r.run (xs.map Lexeme.token)).1.charging c, (r.run (xs.map Lexeme.token)).2) := by
  -- What is charged stays below what was charged before and the bytes of the tokens taken since,
  -- so no token meets the limit.
  induction xs generalizing r with
  | nil => exact ⟨r.charged, Nat.le_add_right _ _, by rw [steps, List.map_nil, run]; rfl⟩
  | cons x xs ih =>
    rw [extent_cons] at fits
    rw [List.map_cons, steps, step, if_neg (by rw [ready]; simp), extent_cons]
    cases h : r.apply x.token with
    | error e =>
      refine ⟨r.charged, Nat.le_add_right _ _, ?_⟩
      dsimp only
      rw [run_of_error h, steps_of_fault rfl]
      rfl
    | ok taken =>
      obtain ⟨r', events⟩ := taken
      have before := charged_apply h
      have setting := SameSetting.apply h
      have fits' : r'.charged + x.size ≤ r'.limit := by
        rw [before.1, setting.limit]
        omega
      dsimp only
      rw [charge_of_fits fits', run_of_ok h]
      generalize hc : (if r'.nodes = [] then 0 else r'.charged + x.size) = c
      have small : c ≤ r.charged + x.size := by
        rw [← hc, before.1]
        split_ifs <;> omega
      obtain ⟨c', small', same⟩ := ih (r := r'.charging c) (before.2.trans ready)
        (show c + extent xs ≤ r'.limit by rw [setting.limit]; omega)
      refine ⟨c', ?_, ?_⟩
      · exact Nat.le_trans small' (show c + extent xs ≤ _ by omega)
      · rw [same, run_charging, charging_charging]

end XmppStream.Reader
