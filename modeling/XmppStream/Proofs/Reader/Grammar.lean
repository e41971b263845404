import XmppStream.Proofs.Reader.Sizes

/-! The order in which events come out. In each framing they follow its grammar up to any point of
the stream; after the close nothing comes out, and nothing but blanks may follow it. -/

namespace XmppStream
open Markup

def Event.header? : Event → Option Header
  | .opened header => some header
  | _ => none

namespace Framing

/-- The events that may come out of a stream, up to any point of it. -/
def Grammar (framing : Framing) (events : List Event) : Prop :=
  match framing with
  | .stream => ∃ header ss, events <+: .opened header :: (List.map .stanza ss ++ [.closed])
  | .standalone => ∃ ss, events = List.map .stanza ss
  | .webSocket => .closed ∉ events.dropLast

/-- The events of a stream that has begun and goes on. -/
def Within (framing : Framing) (events : List Event) : Prop :=
  match framing with
  | .stream => ∃ header ss, events = .opened header :: List.map .stanza ss
  | .standalone => ∃ ss, events = List.map .stanza ss
  | .webSocket => .closed ∉ events

end Framing

inductive Reader.Input where
  | push (data : Bytes)
  | reset
deriving DecidableEq, Repr

inductive Phase where
  | before
  | within
  | after
deriving DecidableEq, Repr

def Phase.Fits (framing : Framing) : Phase → List Event → Prop
  | before, events => events = []
  | within, events => framing.Within events
  | after, events =>
    framing ≠ .standalone ∧ ∃ earlier, framing.Within earlier ∧ events = earlier ++ [.closed]

/-- What may stand after the close: text of blank characters alone, and markup that is ignored. -/
def Markup.Token.Blank : Token → Prop
  | .opening _ | .empty _ | .closing _ => False
  | .text raw => ∃ text, decodeText raw = .ok text ∧ ∀ c ∈ text.toList, isBlank c
  | .cdata raw => ∃ text, decodeName raw = .ok text ∧ ∀ c ∈ text.toList, isBlank c
  | .ignored => True

namespace Framing.Within

variable {framing : Framing} {events : List Event}

theorem nil (flat : framing ≠ .stream) : framing.Within [] := by
  cases framing with
  | stream => exact absurd rfl flat
  | standalone => exact ⟨[], rfl⟩
  | webSocket => exact List.not_mem_nil

theorem stanza (h : framing.Within events) (s : Stanza) : framing.Within (events ++ [.stanza s]) := by
  cases framing with
  | stream =>
    obtain ⟨header, ss, rfl⟩ := h
    exact ⟨header, ss ++ [s], by simp⟩
  | standalone =>
    obtain ⟨ss, rfl⟩ := h
    exact ⟨ss ++ [s], by simp⟩
  | webSocket =>
    have other : Event.closed ∉ events := h
    show Event.closed ∉ events ++ [.stanza s]
    simp [other]

theorem closed_not_mem (h : framing.Within events) : .closed ∉ events := by
  cases framing with
  | stream =>
    obtain ⟨header, ss, rfl⟩ := h
    simp
  | standalone =>
    obtain ⟨ss, rfl⟩ := h
    simp
  | webSocket => exact h

end Framing.Within

namespace Phase.Fits

variable {framing : Framing} {phase : Phase} {events : List Event}

theorem grammar (h : phase.Fits framing events) : framing.Grammar events := by
  cases phase with
  | before =>
    obtain rfl : events = [] := h
    cases framing with
    | stream => exact ⟨{}, [], List.nil_prefix⟩
    | standalone => exact ⟨[], rfl⟩
    | webSocket => exact List.not_mem_nil
  | within =>
    have within : framing.Within events := h
    cases framing with
    | stream =>
      obtain ⟨header, ss, rfl⟩ := within
      exact ⟨header, ss, List.prefix_append (.opened header :: List.map .stanza ss) [Event.closed]⟩
    | standalone => exact within
    | webSocket => exact fun mem => within (List.dropLast_subset _ mem)
  | after =>
    obtain ⟨framed, earlier, within, rfl⟩ := h
    cases framing with
    | stream =>
      obtain ⟨header, ss, rfl⟩ := within
      exact ⟨header, ss, List.prefix_refl _⟩
    | standalone => exact absurd rfl framed
    | webSocket =>
      show Event.closed ∉ (earlier ++ [Event.closed]).dropLast
      rw [List.dropLast_concat]
      exact within

theorem closed_mem (h : phase.Fits framing events) : Event.closed ∈ events ↔ phase = .after := by
  cases phase with
  | before =>
    obtain rfl : events = [] := h
    simp
  | within => simp [Framing.Within.closed_not_mem h]
  | after =>
    obtain ⟨-, earlier, -, rfl⟩ := h
    simp

theorem last {earlier later : List Event} (h : phase.Fits framing (earlier ++ later))
    (closed : .closed ∈ earlier) : later = [] := by
  obtain rfl := h.closed_mem.1 (List.mem_append_left _ closed)
  obtain ⟨-, others, within, split⟩ := h
  cases later using List.reverseRecOn with
  | nil => rfl
  | append_singleton later e _ =>
    rw [← List.append_assoc] at split
    have front := (List.append_inj_left' split rfl).symm
    rw [front] at within
    exact absurd (List.mem_append_left _ closed) within.closed_not_mem

end Phase.Fits

namespace Reader

def input (said : Reader × List Event) : Input → Reader × List Event
  | .push data => ((said.1.push data).1, said.2 ++ (said.1.push data).2)
  | .reset => (said.1.reset, [])

def inputs (said : Reader × List Event) (is : List Input) : Reader × List Event := is.foldl input said

def phase (r : Reader) : Phase :=
  if r.finished then .after else if r.framing = .stream ∧ r.depth = 0 then .before else .within

/-- The events since the beginning of a stream, and the reader that they leave. -/
structure Tells (framing : Framing) (r : Reader) (events : List Event) : Prop where
  framed : r.framing = framing
  stands : ∃ l, Stands l r
  names : r.names.length = r.depth
  shut : r.finished = true → r.depth = 0
  fits : r.phase.Fits framing events

theorem phase_within {r : Reader} (unfinished : r.finished = false)
    (begun : r.framing = .stream → r.depth ≠ 0) : r.phase = .within := by
  rw [phase, if_neg (by simp [unfinished]), if_neg fun top => begun top.1 top.2]

theorem fits_within {framing : Framing} {r : Reader} {events : List Event}
    (unfinished : r.finished = false) (begun : r.framing = .stream → r.depth ≠ 0)
    (within : framing.Within events) : r.phase.Fits framing events := by
  rwa [phase_within unfinished begun]

theorem fits_after {framing : Framing} {r : Reader} {events : List Event}
    (finished : r.finished = true) (framed : framing ≠ .standalone) (within : framing.Within events) :
    r.phase.Fits framing (events ++ [.closed]) := by
  rw [phase, if_pos finished]
  exact ⟨framed, events, within, rfl⟩

theorem finished_iff_phase (r : Reader) : r.finished = true ↔ r.phase = .after := by
  unfold phase
  split_ifs with finished top <;> simp [finished]

namespace Tells

variable {framing : Framing} {r r' : Reader} {events more : List Event}

theorem fresh (framing : Framing) (limit : Nat) : Tells framing (fresh framing limit) [] := by
  refine ⟨rfl, ⟨_, .fresh framing limit⟩, rfl, nofun, ?_⟩
  cases framing with
  | stream => exact rfl
  | standalone => exact ⟨[], rfl⟩
  | webSocket => exact List.not_mem_nil

theorem beside (h : Tells framing r events) (kept : Bytes) (charged : Nat)
    (fault : Option ReaderFault) : Tells framing (r.beside kept charged fault) events := by
  obtain ⟨l, stands⟩ := h.stands
  exact ⟨h.framed, ⟨l, stands.nodes, stands.depth, stands.scopes, stands.inFraming, stands.alone,
    stands.wrapped⟩, h.names, h.shut, h.fits⟩

theorem opening {tag : Bytes} (h : Tells framing r events) (opens : r.opening tag = .ok (r', more)) :
    Tells framing r' (events ++ more) := by
  obtain ⟨l, stands⟩ := h.stands
  have later := stands.opening opens
  have fits := h.fits
  obtain ⟨unfinished, -, name, t, -, -, moves⟩ := opens_of_opening opens
  have names : r.names.length + 1 = r.depth + 1 := congrArg (· + 1) h.names
  have shut : r.finished = true → r.depth + 1 = 0 := by simp [unfinished]
  have inner : r.framing = .stream → r.depth + 1 ≠ 0 := fun _ => Nat.succ_ne_zero _
  cases moves with
  | node ns prefixes stanza =>
    rw [phase_within unfinished fun stream top => stanza top stream] at fits
    rw [List.append_nil]
    exact ⟨h.framed, ⟨_, later⟩, names, shut, fits_within unfinished inner fits⟩
  | wrapper top stream =>
    -- Nothing has come out yet.
    rw [phase, if_neg (by simp [unfinished]), if_pos ⟨stream, top⟩] at fits
    obtain rfl : events = [] := fits
    have within : framing.Within
        [.opened (Header.ofAttrs t.lang t.scope.defaultNs t.attrs)] := by
      rw [← h.framed, stream]
      exact ⟨_, [], rfl⟩
    exact ⟨h.framed, ⟨_, later⟩, names, shut, fits_within unfinished inner within⟩
  | frame top webSocket kind =>
    rw [phase_within unfinished (by simp [webSocket])] at fits
    have framed : framing = .webSocket := h.framed.symm.trans webSocket
    have others : Event.closed ∉ more := by
      rcases kind with ⟨-, rfl⟩ | ⟨-, rfl⟩ <;> simp
    have within : framing.Within (events ++ more) := by
      rw [framed] at fits ⊢
      show Event.closed ∉ events ++ more
      exact fun mem => (List.mem_append.1 mem).elim fits others
    exact ⟨h.framed, ⟨_, later⟩, names, shut, fits_within unfinished inner within⟩

theorem unfinished (h : Tells framing r events) (inner : r.names ≠ []) : r.finished = false := by
  by_contra finished
  have depth := h.shut (by simpa using finished)
  rw [← h.names, List.length_eq_zero_iff] at depth
  exact inner depth

theorem closing {closed : Bytes} (h : Tells framing r events)
    (closes : r.closing closed = .ok (r', more)) : Tells framing r' (events ++ more) := by
  obtain ⟨l, stands⟩ := h.stands
  have later := stands.closing closes
  obtain ⟨name, names, -, innermost, leaves⟩ := leaves_of_closing closes
  have unfinished : r.finished = false := h.unfinished (by rw [innermost]; simp)
  have height := h.names
  rw [innermost, List.length_cons] at height
  have names : names.length = r.depth - 1 := by omega
  have shut : r.finished = true → r.depth - 1 = 0 := by simp [unfinished]
  have within := h.fits
  rw [phase_within unfinished fun _ => by omega] at within
  cases leaves with
  | close inside kind =>
    have inside : r.inFraming = true := inside
    have webSocket := (stands.inFraming.1 inside).1
    have framed : framing ≠ .standalone := by
      rw [← h.framed, webSocket]
      simp
    have last : r.depth - 1 = 0 := by
      rw [stands.depth, stands.alone inside]
      rfl
    exact ⟨h.framed, ⟨_, later⟩, names, fun _ => last,
      fits_after rfl framed within⟩
  | frame inside kind =>
    have inside : r.inFraming = true := inside
    have webSocket := (stands.inFraming.1 inside).1
    rw [List.append_nil]
    exact ⟨h.framed, ⟨_, later⟩, names, shut,
      fits_within unfinished (by simp [webSocket]) within⟩
  | wrapper between stream top =>
    have framed : framing ≠ .standalone := by
      rw [← h.framed, show r.framing = .stream from stream]
      simp
    exact ⟨h.framed, ⟨_, later⟩, names, fun _ => top,
      fits_after rfl framed within⟩
  | stanza between deep last =>
    exact ⟨h.framed, ⟨_, later⟩, names, shut, fits_within unfinished deep (within.stanza _)⟩
  | child between deep inner =>
    rw [List.append_nil]
    exact ⟨h.framed, ⟨_, later⟩, names, shut, fits_within unfinished deep within⟩

theorem characters {text : String} (h : Tells framing r events)
    (taken : r.characters text = .ok (r', more)) : Tells framing r' (events ++ more) := by
  obtain ⟨l, stands⟩ := h.stands
  have later := stands.characters taken
  obtain ⟨rfl, ⟨n, nodes, inner, rfl⟩ | rfl⟩ := characters_cases taken
  · rw [List.append_nil]
    exact ⟨h.framed, ⟨l, later⟩, h.names, h.shut, h.fits⟩
  · rw [List.append_nil]
    exact h

theorem apply {t : Token} (h : Tells framing r events) (taken : r.apply t = .ok (r', more)) :
    Tells framing r' (events ++ more) := by
  cases t with
  | opening tag => exact h.opening taken
  | closing name => exact h.closing taken
  | empty tag =>
    obtain ⟨inside, first, second, opens, closes, rfl⟩ := emptyTag_cases taken
    rw [← List.append_assoc]
    exact (h.opening opens).closing closes
  | text raw =>
    rw [Reader.apply] at taken
    split at taken
    · cases taken
    · exact h.characters taken
  | cdata raw =>
    rw [Reader.apply] at taken
    split at taken
    · cases taken
    · exact h.characters taken
  | ignored =>
    cases taken
    rwa [List.append_nil]

theorem charge (h : Tells framing r events) (size : Nat) : Tells framing (r.charge size) events := by
  unfold Reader.charge
  dsimp only
  split_ifs
  · exact h.beside _ _ _
  · exact h.beside _ _ _
  · exact h.beside _ _ _

theorem step (h : Tells framing r events) (x : Lexeme) :
    Tells framing (r.step x).1 (events ++ (r.step x).2) := by
  unfold Reader.step
  split_ifs
  · rwa [List.append_nil]
  · split
    · rw [List.append_nil]
      exact h.beside _ _ _
    · next taken => exact (h.apply taken).charge _

theorem steps (h : Tells framing r events) (xs : List Lexeme) :
    Tells framing (r.steps xs).1 (events ++ (r.steps xs).2) := by
  induction xs generalizing r events with
  | nil => rwa [Reader.steps, List.append_nil]
  | cons x xs ih =>
    rw [Reader.steps, ← List.append_assoc]
    exact ih (h.step x)

theorem keeping (h : Tells framing r events) (left : Bytes) : Tells framing (r.keeping left) events :=
  h.beside _ _ _

theorem push (h : Tells framing r events) (data : Bytes) :
    Tells framing (r.push data).1 (events ++ (r.push data).2) := by
  cases ready : r.fault with
  | some e =>
    rw [push_of_fault (by rw [ready]; rfl), List.append_nil]
    exact h
  | none =>
    rw [push_eq_settle ready]
    exact ((h.keeping []).steps _).beside _ _ _

theorem pushAll (h : Tells framing r events) (pieces : List Bytes) :
    Tells framing (r.pushAll pieces).1 (events ++ (r.pushAll pieces).2) := by
  induction pieces using List.reverseRecOn with
  | nil => rwa [Reader.pushAll, List.append_nil]
  | append_singleton pieces data ih =>
    rw [pushAll_concat, ← List.append_assoc]
    exact ih.push data

theorem finished_iff (h : Tells framing r events) : r.finished = true ↔ .closed ∈ events := by
  rw [finished_iff_phase, h.fits.closed_mem]

theorem silent (h : Tells framing r events) (closed : .closed ∈ events) (pieces : List Bytes) :
    (r.pushAll pieces).2 = [] := (h.pushAll pieces).fits.last closed

theorem headers_le (h : Tells framing r events) (stream : framing = .stream) :
    (events.filterMap Event.header?).length ≤ 1 := by
  obtain ⟨header, ss, front⟩ := stream ▸ h.fits.grammar
  have others : (List.map Event.stanza ss).filterMap Event.header? = [] :=
    List.filterMap_eq_nil_iff.2 (by simp [Event.header?])
  have fewer := (front.filterMap Event.header?).length_le
  rw [List.filterMap_cons, List.filterMap_append, others] at fewer
  exact fewer

theorem nodes_of_finished (h : Tells framing r events) (finished : r.finished = true) :
    r.nodes = [] := by
  obtain ⟨l, stands⟩ := h.stands
  exact stands.nodes_eq_nil.2 (stands.outermost (h.shut finished)).2.1

theorem refuses (h : Tells framing r events) (finished : r.finished = true) {t : Token}
    (solid : ¬ t.Blank) : ∃ e, r.apply t = .error e := by
  have outside := h.nodes_of_finished finished
  have refused (content : Bytes) : ∃ e, r.opening content = .error e := by
    unfold Reader.opening
    split
    · exact ⟨_, rfl⟩
    · rw [if_pos finished]
      exact ⟨_, rfl⟩
  have closed : r.names = [] := by
    rw [← List.length_eq_zero_iff, h.names, h.shut finished]
  have said {text : String} (solid : ¬ ∀ c ∈ text.toList, isBlank c) :
      ∃ e, r.characters text = .error e := by
    unfold Reader.characters
    rw [outside]
    dsimp only
    rw [if_pos ⟨finished, by simpa [isBlankText] using solid⟩]
    exact ⟨_, rfl⟩
  -- Tags meet the end of the stream, and a text meets it where it has a solid character.
  cases t with
  | opening content => exact refused content
  | empty content =>
    obtain ⟨e, he⟩ := refused content
    refine ⟨e, ?_⟩
    rw [Reader.apply, emptyTag, he]
  | closing name =>
    rw [Reader.apply, Reader.closing]
    split
    · exact ⟨_, rfl⟩
    · rw [endTag, closed]
      exact ⟨_, rfl⟩
  | text raw =>
    rw [Reader.apply]
    split
    · exact ⟨_, rfl⟩
    · next text decoded => exact said fun blank => solid ⟨text, decoded, blank⟩
  | cdata raw =>
    rw [Reader.apply]
    split
    · exact ⟨_, rfl⟩
    · next text decoded => exact said fun blank => solid ⟨text, decoded, blank⟩
  | ignored => exact absurd trivial solid

theorem input {said : Reader × List Event} (h : Tells framing said.1 said.2) (i : Input) :
    Tells framing (input said i).1 (input said i).2 := by
  cases i with
  | push data => exact h.push data
  | reset =>
    obtain rfl := h.framed
    exact fresh said.1.framing said.1.limit

theorem inputs {said : Reader × List Event} (h : Tells framing said.1 said.2) (is : List Input) :
    Tells framing (inputs said is).1 (inputs said is).2 := by
  induction is generalizing said with
  | nil => exact h
  | cons i is ih => exact ih (h.input i)

end Tells

theorem fault_push_of_steps {r : Reader} {data : Bytes} {xs ys : List Lexeme}
    (split : (tokens (r.kept ++ data)).1 = xs ++ ys)
    (h : ((r.keeping []).steps xs).1.fault.isSome) : (r.push data).1.fault.isSome := by
  cases ready : r.fault with
  | some e =>
    rw [push_of_fault (by rw [ready]; rfl), ready]
    rfl
  | none =>
    rw [push_eq_settle ready, fault_settle, split, steps_append, steps_of_fault h]
    cases found : ((r.keeping []).steps xs).1.fault with
    | some e => rfl
    | none =>
      rw [found] at h
      cases h

theorem inputs_push_of_fault {said : Reader × List Event} (h : said.1.fault.isSome)
    (later : List Bytes) : inputs said (later.map .push) = said := by
  induction later with
  | nil => rfl
  | cons data later ih =>
    have same : input said (.push data) = said := by
      rw [input, push_of_fault h, List.append_nil]
    show inputs (input said (.push data)) (later.map .push) = said
    rw [same, ih]

/-- Whatever is pushed into a reader, and whenever it is reset: the events since the last reset
follow the grammar of the framing, and the reader is finished once the close is among them. From
there on it stops at each tag and at each text that is not blank. After a fault every later push
gives the same fault and no event. -/
theorem events_follow_grammar (framing : Framing) (limit : Nat) (is : List Input) :
    let said := inputs (fresh framing limit, []) is
    framing.Grammar said.2
      ∧ (said.1.finished = true ↔ .closed ∈ said.2)
      ∧ (framing = .standalone → said.1.finished = false)
      ∧ (∀ data before x after, (tokens (said.1.kept ++ data)).1 = before ++ x :: after →
          .closed ∈ said.2 ++ ((said.1.keeping []).steps before).2 → ¬ x.token.Blank →
          ((said.1.keeping []).steps (before ++ [x])).1.fault.isSome
            ∧ (said.1.push data).1.fault.isSome)
      ∧ (said.1.fault.isSome → ∀ later : List Bytes, inputs said (later.map .push) = said) := by
  intro said
  have tells : Tells framing said.1 said.2 := (Tells.fresh framing limit).inputs is
  refine ⟨tells.fits.grammar, tells.finished_iff, ?_, ?_, inputs_push_of_fault⟩
  · rintro rfl
    by_contra finished
    have closed := tells.finished_iff.1 (by simpa using finished)
    obtain ⟨ss, events⟩ := tells.fits.grammar
    rw [events] at closed
    simp at closed
  · intro data before x after split closed solid
    have there := (tells.keeping []).steps before
    obtain ⟨e, refused⟩ := there.refuses (there.finished_iff.2 closed) solid
    have stops : ((said.1.keeping []).steps (before ++ [x])).1.fault.isSome := by
      rw [steps_concat]
      dsimp only
      unfold step
      split_ifs with failed
      · exact failed
      · rw [refused]
        rfl
    refine ⟨stops, @fault_push_of_steps _ _ _ after ?_ stops⟩
    rw [split, List.append_assoc, List.singleton_append]

def closedInputs : List Input :=
  [.push (Utf8.encode "<open"), .reset,
    .push (Utf8.encode "<open xmlns='urn:ietf:params:xml:ns:xmpp-framing'/><a/>"),
    .push (Utf8.encode "<f:close xmlns:f='urn:ietf:params:xml:ns:xmpp-framing'></f:close>")]

theorem events_follow_grammar_closedInputs :
    let said := inputs (fresh .webSocket 200, []) closedInputs
    let data := Utf8.encode " <b/>"
    said.2 = [.opened {}, .stanza { name := "a", ns := "" }, .closed]
      ∧ said.1.finished = true
      ∧ (tokens (said.1.kept ++ data)).1 =
        [⟨.text (Utf8.encode " "), 1⟩] ++ ⟨.empty (Utf8.encode "b"), 4⟩ :: []
      ∧ ¬ (Token.empty (Utf8.encode "b")).Blank
      ∧ (said.1.push data).1.fault.isSome := by
  intro said data
  obtain ⟨-, finished, -, refused, -⟩ := events_follow_grammar .webSocket 200 closedInputs
  have events : said.2 = [.opened {}, .stanza { name := "a", ns := "" }, .closed] := by
    decide +kernel
  have split : (tokens (said.1.kept ++ data)).1 =
      [⟨.text (Utf8.encode " "), 1⟩] ++ ⟨.empty (Utf8.encode "b"), 4⟩ :: [] := by decide +kernel
  have closed : Event.closed ∈ said.2 := by
    rw [events]
    simp
  have solid : ¬ (Token.empty (Utf8.encode "b")).Blank := id
  exact ⟨events, finished.2 closed, split, solid,
    (refused data _ _ _ split (List.mem_append_left _ closed) solid).2⟩

end Reader
end XmppStream
