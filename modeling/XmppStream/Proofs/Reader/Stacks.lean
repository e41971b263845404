import XmppStream.Proofs.Reader.Grammar

/-! The stacks of the reader. Between any two tokens their heights follow from its depth, so that an
end tag which finds a name to take finds all else that it takes. What is charged are the bytes of
the stanza that is open. -/

namespace XmppStream.Reader
open Markup

/-- The parts of a reader fit together. Each open element has a name and a scope, and each but the
wrapper of a stream and those that open or close a stream over WebSocket has a node. -/
structure Stacked (r : Reader) : Prop where
  names : r.names.length = r.depth
  scopes : r.scopes.length = r.depth
  inFraming : r.inFraming = true → r.framing = .webSocket ∧ r.depth = 1 ∧ r.nodes = []
  wrapped : r.framing = .stream → r.nodes.length = r.depth - 1
  flat : r.inFraming = false → r.framing ≠ .stream → r.nodes.length = r.depth
  finished : r.finished = true → r.depth = 0 ∧ r.nodes = []

namespace Stacked

variable {r r' : Reader} {events : List Event}

theorem fresh (framing : Framing) (limit : Nat) : Stacked (fresh framing limit) :=
  ⟨rfl, rfl, nofun, fun _ => rfl, fun _ _ => rfl, nofun⟩

theorem beside (h : Stacked r) (kept : Bytes) (charged : Nat) (fault : Option ReaderFault) :
    Stacked (r.beside kept charged fault) :=
  ⟨h.names, h.scopes, h.inFraming, h.wrapped, h.flat, h.finished⟩

theorem opening {tag : Bytes} (h : Stacked r) (opens : r.opening tag = .ok (r', events)) :
    Stacked r' := by
  obtain ⟨unfinished, between, name, t, -, -, moves⟩ := opens_of_opening opens
  have names := congrArg (· + 1) h.names
  have scopes := congrArg (· + 1) h.scopes
  have noFrame : r.inFraming ≠ true := by simp [between]
  have goesOn : r.finished ≠ true := by simp [unfinished]
  cases moves with
  | node ns prefixes stanza =>
    refine ⟨names, scopes, (absurd · noFrame), fun stream => ?_, fun _ flat => ?_,
      (absurd · goesOn)⟩
    · have nodes := h.wrapped stream
      have deep : r.depth ≠ 0 := fun top => stanza top stream
      show r.nodes.length + 1 = r.depth + 1 - 1
      omega
    · exact congrArg (· + 1) (h.flat between flat)
  | wrapper top stream =>
    have nodes : r.nodes.length = r.depth := by rw [h.wrapped stream, top]
    exact ⟨names, scopes, (absurd · noFrame), fun _ => nodes, fun _ flat => absurd stream flat,
      (absurd · goesOn)⟩
  | frame top webSocket kind =>
    have flat : r.framing ≠ .stream := by simp [webSocket]
    have nodes := h.flat between flat
    rw [top, List.length_eq_zero_iff] at nodes
    exact ⟨names, scopes, fun _ => ⟨webSocket, congrArg (· + 1) top, nodes⟩,
      fun stream => absurd stream flat, nofun, (absurd · goesOn)⟩

theorem unfinished (h : Stacked r) (deep : r.depth ≠ 0) : r.finished ≠ true :=
  fun finished => deep (h.finished finished).1

theorem leaveFrame (h : Stacked r) (inside : r.inFraming = true) {names : List String}
    (height : names.length = r.depth - 1) (finished : Bool) :
    Stacked { r with
      names, scopes := r.scopes.tail, depth := r.depth - 1, inFraming := false, finished } := by
  obtain ⟨webSocket, one, nodes⟩ := h.inFraming inside
  have last : r.depth - 1 = 0 := by rw [one]
  have scopes : r.scopes.tail.length = r.depth - 1 := by rw [List.length_tail, h.scopes]
  refine ⟨height, scopes, nofun, fun stream => ?_, fun _ _ => ?_, fun _ => ⟨last, nodes⟩⟩
  · have stream : r.framing = .stream := stream
    rw [webSocket] at stream
    cases stream
  · show r.nodes.length = r.depth - 1
    rw [nodes, last]
    rfl

theorem leaveNode (h : Stacked r) (between : r.inFraming = false) (inner : r.depth ≠ 0)
    {names : List String} (height : names.length = r.depth - 1) {nodes : List OpenNode}
    (shorter : r.nodes.length = nodes.length + 1) :
    Stacked { r with names, scopes := r.scopes.tail, depth := r.depth - 1, nodes } := by
  have scopes : r.scopes.tail.length = r.depth - 1 := by rw [List.length_tail, h.scopes]
  refine ⟨height, scopes, ?_, fun stream => ?_, fun _ flat => ?_, ?_⟩
  · exact fun inside => absurd (between.symm.trans inside) (by simp)
  · have all := h.wrapped stream
    show nodes.length = r.depth - 1 - 1
    omega
  · have all := h.flat between flat
    show nodes.length = r.depth - 1
    omega
  · exact fun finished => absurd finished (h.unfinished inner)

theorem closing {closed : Bytes} (h : Stacked r) (closes : r.closing closed = .ok (r', events)) :
    Stacked r' := by
  obtain ⟨name, names, -, innermost, leaves⟩ := leaves_of_closing closes
  have height := h.names
  rw [innermost, List.length_cons] at height
  have inner : r.depth ≠ 0 := by omega
  have names : names.length = r.depth - 1 := by omega
  cases leaves with
  | close inside kind => exact h.leaveFrame inside names true
  | frame inside kind => exact h.leaveFrame inside names r.finished
  | wrapper between stream top =>
    have stream : r.framing = .stream := stream
    have last : r.depth - 1 = 0 := top
    have scopes : r.scopes.tail.length = r.depth - 1 := by rw [List.length_tail, h.scopes]
    have nodes : r.nodes = [] := List.length_eq_zero_iff.1 ((h.wrapped stream).trans last)
    refine ⟨names, scopes, ?_, fun _ => ?_, fun _ flat => absurd stream flat, fun _ => ⟨last, nodes⟩⟩
    · exact fun inside => absurd (between.symm.trans inside) (by simp)
    · show r.nodes.length = r.depth - 1 - 1
      rw [nodes, last]
      rfl
  | stanza between deep last =>
    have last : r.nodes = [_] := last
    exact h.leaveNode between inner names (by rw [last]; rfl)
  | child between deep more =>
    have more : r.nodes = _ :: _ :: _ := more
    exact h.leaveNode between inner names (by rw [more]; rfl)

theorem characters {text : String} (h : Stacked r) (taken : r.characters text = .ok (r', events)) :
    Stacked r' := by
  obtain ⟨-, ⟨n, nodes, inner, rfl⟩ | rfl⟩ := characters_cases taken
  · have height : r.nodes.length = nodes.length + 1 := by rw [inner]; rfl
    have inhabited : r.nodes ≠ [] := by rw [inner]; simp
    exact { h with
      inFraming := fun inside => absurd (h.inFraming inside).2.2 inhabited
      wrapped := fun stream => height.symm.trans (h.wrapped stream)
      flat := fun between flat => height.symm.trans (h.flat between flat)
      finished := fun finished => absurd (h.finished finished).2 inhabited }
  · exact h

theorem apply {t : Token} (h : Stacked r) (taken : r.apply t = .ok (r', events)) : Stacked r' := by
  cases t with
  | opening tag => exact h.opening taken
  | closing name => exact h.closing taken
  | empty tag =>
    obtain ⟨inside, first, second, opens, closes, -⟩ := emptyTag_cases taken
    exact (h.opening opens).closing closes
  | text raw =>
    rw [Reader.apply] at taken
    split at taken
    · cases taken
    · exact h.characters taken
  | cdata raw =>
    rw [Reader.apply] at taken
    split at taken
    · cases taken
    · exact h.characters taken
  | ignored =>
    cases taken
    exact h

theorem charge (h : Stacked r) (size : Nat) : Stacked (r.charge size) := by
  unfold Reader.charge
  dsimp only
  split_ifs
  · exact h.beside _ _ _
  · exact h.beside _ _ _
  · exact h.beside _ _ _

theorem step (h : Stacked r) (x : Lexeme) : Stacked (r.step x).1 := by
  unfold Reader.step
  split_ifs
  · exact h
  · split
    · exact h.beside _ _ _
    · next taken => exact (h.apply taken).charge _

theorem steps (h : Stacked r) (xs : List Lexeme) : Stacked (r.steps xs).1 := by
  induction xs generalizing r with
  | nil => exact h
  | cons x xs ih => exact ih (h.step x)

theorem push (h : Stacked r) (data : Bytes) : Stacked (r.push data).1 := by
  cases ready : r.fault with
  | some e => rwa [push_of_fault (by rw [ready]; rfl)]
  | none =>
    rw [push_eq_settle ready]
    exact ((h.beside [] _ _).steps _).beside _ _ _

theorem ending? {t : Token} (h : Stacked r) (ends : r.ending? t = some r') : Stacked r' := by
  cases t with
  | closing name =>
    cases ends
    exact h
  | empty tag =>
    rw [Reader.ending?] at ends
    cases opens : r.opening tag with
    | error e =>
      rw [opens] at ends
      cases ends
    | ok opened =>
      rw [opens] at ends
      cases ends
      exact h.opening opens
  | opening tag => cases ends
  | text raw => cases ends
  | cdata raw => cases ends
  | ignored => cases ends

theorem refusesClosing {e : ReaderFault} (h : Stacked r) (refused : RefusesClosing r e) :
    ∃ why, e = .markup why := by
  cases refused with
  | markup why => exact ⟨why, rfl⟩
  | outsideStanza name inhabited between deep none =>
    have depth : r.depth ≠ 0 := by rwa [← h.names, ne_eq, List.length_eq_zero_iff]
    have height : r.nodes.length = 0 := by rw [none]; rfl
    by_cases stream : r.framing = .stream
    · have wrapped := h.wrapped stream
      have inner := deep stream
      omega
    · have flat := h.flat between stream
      omega

theorem not_outsideStanza {t : Token} {e : ReaderFault} (h : Stacked r) (refused : r.apply t = .error e)
    (name : String) : e ≠ .framing (.outsideStanza name) := by
  cases refuses_of_apply refused with
  | opening why => cases why <;> simp
  | closing ends why =>
    obtain ⟨why, rfl⟩ := (h.ending? ends).refusesClosing why
    simp
  | text why => simp
  | textAfterClose => simp

theorem step_not_outsideStanza (h : Stacked r) (x : Lexeme) (name : String)
    (before : r.fault ≠ some (.framing (.outsideStanza name))) :
    (r.step x).1.fault ≠ some (.framing (.outsideStanza name)) := by
  unfold Reader.step
  split_ifs
  · exact before
  · split
    · next refused => exact fun same => h.not_outsideStanza refused name (Option.some.inj same)
    · next r' events taken =>
      have fault := (charged_apply taken).2
      unfold Reader.charge
      dsimp only
      split_ifs
      · rwa [← fault] at before
      · simp
      · rwa [← fault] at before

theorem steps_not_outsideStanza (h : Stacked r) (xs : List Lexeme) (name : String)
    (before : r.fault ≠ some (.framing (.outsideStanza name))) :
    (r.steps xs).1.fault ≠ some (.framing (.outsideStanza name)) := by
  induction xs generalizing r with
  | nil => exact before
  | cons x xs ih => exact ih (h.step x) (h.step_not_outsideStanza x name before)

theorem push_not_outsideStanza (h : Stacked r) (data : Bytes) (name : String)
    (before : r.fault ≠ some (.framing (.outsideStanza name))) :
    (r.push data).1.fault ≠ some (.framing (.outsideStanza name)) := by
  cases ready : r.fault with
  | some e => rwa [push_of_fault (by rw [ready]; rfl)]
  | none =>
    rw [push_eq_settle ready, fault_settle]
    have taken := (h.beside [] r.charged r.fault).steps_not_outsideStanza
      (tokens (r.kept ++ data)).1 name before
    intro fault
    rcases Option.or_eq_some_iff.1 fault with fault | ⟨-, fault⟩
    · exact taken fault
    · rw [endingFault] at fault
      split_ifs at fault <;> cases fault

theorem pushAll (h : Stacked r) (pieces : List Bytes) (name : String)
    (before : r.fault ≠ some (.framing (.outsideStanza name))) :
    Stacked (r.pushAll pieces).1
      ∧ (r.pushAll pieces).1.fault ≠ some (.framing (.outsideStanza name)) := by
  induction pieces using List.reverseRecOn with
  | nil => exact ⟨h, before⟩
  | append_singleton pieces data ih =>
    rw [pushAll_concat]
    exact ⟨ih.1.push data, ih.1.push_not_outsideStanza data name ih.2⟩

end Stacked

def sinceReset (is : List Input) : List Bytes :=
  is.foldl (fun pieces i => match i with
    | .push data => pieces ++ [data]
    | .reset => []) []

theorem SameSetting.reset_eq {r r' : Reader} (h : SameSetting r r') : r'.reset = r.reset := by
  rw [reset, reset, h.framing, h.limit]

theorem reset_push (r : Reader) (data : Bytes) : (r.push data).1.reset = r.reset := by
  cases ready : r.fault with
  | some e => rw [push_of_fault (by rw [ready]; rfl)]
  | none =>
    rw [push_eq_settle ready]
    exact (SameSetting.steps (r.keeping []) _).reset_eq

theorem reset_pushAll (r : Reader) (pieces : List Bytes) : (r.pushAll pieces).1.reset = r.reset := by
  induction pieces using List.reverseRecOn with
  | nil => rfl
  | append_singleton pieces data ih => rw [pushAll_concat, reset_push, ih]

theorem inputs_eq_pushAll (framing : Framing) (limit : Nat) (is : List Input) :
    inputs (fresh framing limit, []) is = (fresh framing limit).pushAll (sinceReset is) := by
  induction is using List.reverseRecOn with
  | nil => rfl
  | append_singleton is i ih =>
    have last : sinceReset (is ++ [i]) = match i with
        | .push data => sinceReset is ++ [data]
        | .reset => [] := List.foldl_append
    have run : inputs (fresh framing limit, []) (is ++ [i]) =
        input (inputs (fresh framing limit, []) is) i := List.foldl_append
    rw [run, ih, last]
    cases i with
    | push data =>
      dsimp only
      rw [pushAll_concat, input]
    | reset =>
      -- A reset leaves the reader as it was at the beginning.
      dsimp only
      rw [input, reset_pushAll]
      rfl

theorem kept_le_of_push {r : Reader} {data : Bytes} (ready : r.fault = none)
    (fine : (r.push data).1.fault = none) : (r.push data).1.kept.length ≤ r.limit := by
  rw [push_eq_settle ready, fault_settle, Option.or_eq_none_iff] at fine
  have small := fine.2
  rw [push_eq_settle ready, settle_of_fine fine.1 fine.2]
  rw [(SameSetting.steps (r.keeping []) _).limit, endingFault] at small
  split_ifs at small with unnamed unknown large
  exact Nat.le_of_not_lt large

theorem fault_of_push {r : Reader} {data : Bytes} (fine : (r.push data).1.fault = none) :
    r.fault = none := by
  cases ready : r.fault with
  | none => rfl
  | some e =>
    rw [push_of_fault (by rw [ready]; rfl), ready] at fine
    cases fine

theorem kept_le {framing : Framing} {limit : Nat} {pieces : List Bytes}
    (fine : ((fresh framing limit).pushAll pieces).1.fault = none) :
    ((fresh framing limit).pushAll pieces).1.kept.length ≤ limit := by
  induction pieces using List.reverseRecOn with
  | nil => exact Nat.zero_le _
  | append_singleton pieces data ih =>
    have setting := reset_pushAll (fresh framing limit) pieces
    rw [pushAll_concat] at fine ⊢
    exact (kept_le_of_push (fault_of_push fine) fine).trans
      (Nat.le_of_eq (congrArg Reader.limit setting))

/-- What a reader is charged with are the bytes of the last tokens it took, from the start tag of the
stanza that is open on; it is charged with nothing where none is. -/
def Charges (r : Reader) (taken : List Slice) : Prop :=
  ∃ before opened, taken = before ++ opened ∧ (opened = [] ↔ r.nodes = [])
    ∧ (opened ≠ [] → Spans r.framing (Level.moves r.framing {} (before.map Slice.lexeme))
        (opened.map Slice.lexeme))
    ∧ r.charged = (opened.flatMap Slice.bytes).length

theorem charges_of_fine {framing : Framing} {limit : Nat} {pieces : List Bytes}
    (fine : ((fresh framing limit).pushAll pieces).1.fault = none) :
    Charges ((fresh framing limit).pushAll pieces).1 ((fresh framing limit).slicesAll pieces)
      ∧ ((fresh framing limit).pushAll pieces).1.charged ≤ limit := by
  have same := congrArg Prod.fst (pushAll_eq_steps rfl fine)
  rw [show (fresh framing limit).keeping [] = fresh framing limit from rfl] at same
  obtain ⟨xs, ys, split, -, underway⟩ := underway_steps framing limit
    (((fresh framing limit).slicesAll pieces).map Slice.lexeme) (by rw [← same]; exact fine)
  rw [← same] at underway
  obtain ⟨before, opened, slices, rfl, rfl⟩ := List.map_eq_append_iff.1 split
  have reads : ∀ s ∈ opened, s.Reads := fun s mem =>
    reads_slicesAll (fresh framing limit) pieces s (by rw [slices]; exact List.mem_append_right _ mem)
  have framed : ((fresh framing limit).pushAll pieces).1.framing = framing := underway.setting.framing
  have closed : opened = [] ↔ ((fresh framing limit).pushAll pieces).1.nodes = [] := by
    rw [← List.map_eq_nil_iff (f := Slice.lexeme), underway.closed]
    exact underway.stands.nodes_eq_nil.symm
  refine ⟨⟨before, opened, slices, closed, fun inhabited => ?_, ?_⟩, ?_⟩
  · rw [framed]
    exact underway.spans (by simpa using inhabited)
  · rw [← extent_map_lexeme reads]
    exact underway.charged
  · exact (Nat.le_of_eq underway.charged).trans underway.fits

/-- Whatever was pushed, and whenever the reader was reset: where it met no fault its parts fit
together, what it keeps and what it is charged with are within the limit, and the charge is that of
the stanza that is open. At any token of a push the same holds, so an end tag that finds a name to
take finds the depth above zero; and no run fails for an end tag outside of a stanza. -/
theorem stacked_inputs (framing : Framing) (limit : Nat) (is : List Input) :
    let r := (inputs (fresh framing limit, []) is).1
    (r.fault = none → Stacked r
        ∧ Charges r ((fresh framing limit).slicesAll (sinceReset is))
        ∧ r.charged ≤ limit ∧ r.kept.length ≤ limit)
      ∧ (∀ data before x after, (tokens (r.kept ++ data)).1 = before ++ x :: after →
          Stacked ((r.keeping []).steps before).1
            ∧ ∀ e, ((r.keeping []).steps before).1.ending? x.token = some e →
              e.names ≠ [] → 0 < e.depth)
      ∧ ∀ name, r.fault ≠ some (.framing (.outsideStanza name)) := by
  intro r
  have run : r = ((fresh framing limit).pushAll (sinceReset is)).1 :=
    congrArg Prod.fst (inputs_eq_pushAll framing limit is)
  have upright (name : String) := (Stacked.fresh framing limit).pushAll (sinceReset is) name nofun
  rw [← run] at upright
  refine ⟨fun fine => ?_, ?_, fun name => (upright name).2⟩
  · rw [run] at fine
    have charges := charges_of_fine fine
    have kept := kept_le fine
    rw [← run] at charges kept
    exact ⟨(upright "").1, charges.1, charges.2, kept⟩
  · intro data before x after _
    have here := ((upright "").1.beside [] r.charged r.fault).steps before
    refine ⟨here, fun e ends inhabited => ?_⟩
    rw [← (here.ending? ends).names, List.length_pos_iff]
    exact inhabited

def wrappedInputs : List Input :=
  [.push (Utf8.encode "<a><b"), .reset,
    .push (Utf8.encode "<s:stream xmlns:s='http://etherx.jabber.org/streams'><a><b"),
    .push (Utf8.encode "/>x<c")]

theorem stacked_inputs_wrappedInputs :
    let r := (inputs (fresh .stream 80, []) wrappedInputs).1
    r.fault = none ∧ r.depth = 2 ∧ r.charged = 8 ∧ r.kept = Utf8.encode "<c"
      ∧ (tokens (r.kept ++ Utf8.encode "/>")).1 = [] ++ ⟨.empty (Utf8.encode "c"), 4⟩ :: []
      ∧ Stacked r ∧ Charges r ((fresh .stream 80).slicesAll (sinceReset wrappedInputs))
      ∧ Stacked ((r.keeping []).steps []).1 := by
  intro r
  obtain ⟨whole, within, -⟩ := stacked_inputs .stream 80 wrappedInputs
  have fine : r.fault = none := by decide +kernel
  have split : (tokens (r.kept ++ Utf8.encode "/>")).1 = [] ++ ⟨.empty (Utf8.encode "c"), 4⟩ :: [] := by
    decide +kernel
  obtain ⟨stacked, charges, -⟩ := whole fine
  exact ⟨fine, by decide +kernel, by decide +kernel, by decide +kernel, split, stacked, charges,
    (within _ _ _ _ split).1⟩

end XmppStream.Reader
