import Mathlib.Data.List.Induction
import XmppStream.Proofs.Reader.Slices
import XmppStream.Proofs.Reader.Stretches

/-! The size of the stanzas that come out. The limit holds for the bytes of a stanza before its last
token, which is not charged. -/

namespace XmppStream.Reader
open Markup

def Level.begins (framing : Framing) (l : Level) : Token → Bool
  | .opening tag | .empty tag => l.inStanza framing tag
  | .closing _ | .text _ | .cdata _ | .ignored => false

/-- Tokens of a stanza: the first begins it, and it is open after each of them but the last. -/
structure Spans (framing : Framing) (l : Level) (xs : List Lexeme) : Prop where
  outside : l.inside = 0
  begins : ∃ x ∈ xs.head?, l.begins framing x.token
  goesOn : ∀ part, part <+: xs → part ≠ [] → part ≠ xs → (l.moves framing part).inside ≠ 0

namespace Level

theorem moves_concat (framing : Framing) (l : Level) (xs : List Lexeme) (x : Lexeme) :
    l.moves framing (xs ++ [x]) = (l.moves framing xs).move framing x.token :=
  moves_append framing l xs [x]

theorem begins_of_move {framing : Framing} {l : Level} {t : Token} (outside : l.inside = 0)
    (open_ : (l.move framing t).inside ≠ 0) : l.begins framing t := by
  cases t with
  | opening tag =>
    by_contra outer
    have stays : l.enter framing tag = { l with around := l.around + 1 } := if_neg outer
    rw [move, stays] at open_
    exact open_ outside
  | closing name =>
    rw [move, leave, if_pos outside] at open_
    exact absurd outside open_
  | empty tag => exact absurd outside open_
  | text raw => exact absurd outside open_
  | cdata raw => exact absurd outside open_
  | ignored => exact absurd outside open_

theorem inside_enter (framing : Framing) (l : Level) (tag : Bytes) :
    (l.enter framing tag).inside = if l.inStanza framing tag then l.inside + 1 else l.inside := by
  rw [enter]
  split_ifs <;> rfl

end Level

namespace Spans

variable {framing : Framing} {l : Level} {x : Lexeme} {xs : List Lexeme}

theorem single (outside : l.inside = 0) (begins : l.begins framing x.token) :
    Spans framing l [x] := by
  refine ⟨outside, ⟨x, rfl, begins⟩, fun part front inhabited proper => ?_⟩
  rcases List.prefix_cons_iff.1 front with rfl | ⟨rest, rfl, more⟩
  · exact absurd rfl inhabited
  · rw [List.prefix_nil.1 more] at proper
    exact absurd rfl proper

theorem concat (spans : Spans framing l xs) (open_ : (l.moves framing xs).inside ≠ 0) :
    Spans framing l (xs ++ [x]) := by
  obtain ⟨first, head, begins⟩ := spans.begins
  refine ⟨spans.outside, ⟨first, ?_, begins⟩, fun part front inhabited proper => ?_⟩
  · rw [List.head?_append, head]
    rfl
  · rcases List.prefix_concat_iff.1 front with rfl | within
    · exact absurd rfl proper
    · by_cases whole : part = xs
      · rwa [whole]
      · exact spans.goesOn part within inhabited whole

end Spans

inductive Emits (outside ends : Prop) : List Event → Prop where
  | silent : Emits outside ends []
  | frame {events : List Event} (place : outside) (others : ∀ s, .stanza s ∉ events) :
      Emits outside ends events
  | stanza (s : Stanza) (place : ends) : Emits outside ends [.stanza s]

theorem Emits.emptied {framing : Framing} {l : Level} {tag : Bytes} {events : List Event}
    (h : Emits ((if l.inStanza framing tag then l.inside + 1 else l.inside) = 0)
      ((if l.inStanza framing tag then l.inside + 1 else l.inside) = 1) events) :
    Emits (l.inside = 0 ∧ l.inside = 0)
      ((l.inside ≠ 0 ∨ l.begins framing (.empty tag)) ∧ l.inside = 0) events := by
  cases h with
  | silent => exact .silent
  | frame place others =>
    split_ifs at place
    exact .frame ⟨place, place⟩ others
  | stanza s place =>
    split_ifs at place with stanza
    · exact .stanza s ⟨.inr stanza, by omega⟩
    · simp [Level.inStanza, place] at stanza

namespace Stands

variable {l : Level} {r r' : Reader} {events : List Event}

theorem emits_opening {tag : Bytes} (stands : Stands l r) (h : r.opening tag = .ok (r', events)) :
    Emits (l.inside = 0 ∧ (l.enter r.framing tag).inside = 0) False events := by
  have after := (stands.opening h).nodes
  obtain ⟨-, -, name, t, -, -, opens⟩ := opens_of_opening h
  cases opens with
  | node ns prefixes stanza => exact .silent
  | wrapper top stream =>
    have outside : l.inside = 0 := (stands.outermost top).2.1
    exact .frame ⟨outside, by rw [← after, ← outside, ← stands.nodes]; rfl⟩ (by simp)
  | frame top webSocket kind =>
    have outside : l.inside = 0 := (stands.outermost top).2.1
    refine .frame ⟨outside, by rw [← after, ← outside, ← stands.nodes]; rfl⟩ fun s => ?_
    rcases kind with ⟨-, rfl⟩ | ⟨-, rfl⟩ <;> simp

theorem emits_closing {name : Bytes} (stands : Stands l r) (h : r.closing name = .ok (r', events)) :
    Emits (l.inside = 0) (l.inside = 1) events := by
  obtain ⟨name, names, -, -, leaves⟩ := leaves_of_closing h
  cases leaves with
  | close inside kind =>
    obtain rfl := stands.alone inside
    exact .frame rfl (by simp)
  | frame inside kind => exact .silent
  | wrapper between stream top => exact .frame (stands.inside_of_wrapper stream top) (by simp)
  | stanza between deep last =>
    have last : r.nodes = [_] := last
    exact .stanza _ (by rw [← stands.nodes, last]; rfl)
  | child between deep inner => exact .silent

theorem emits {t : Token} (stands : Stands l r) (h : r.apply t = .ok (r', events)) :
    Emits (l.inside = 0 ∧ (l.move r.framing t).inside = 0)
      ((l.inside ≠ 0 ∨ l.begins r.framing t) ∧ (l.move r.framing t).inside = 0) events := by
  cases t with
  | opening tag =>
    cases stands.emits_opening h with
    | silent => exact .silent
    | frame place others => exact .frame place others
    | stanza s place => exact place.elim
  | closing name =>
    cases stands.emits_closing h with
    | silent => exact .silent
    | frame place others => exact .frame ⟨place, by simp [Level.move, Level.leave, place]⟩ others
    | stanza s place =>
      exact .stanza s ⟨.inl (by omega), by simp [Level.move, Level.leave, place]⟩
  | empty tag =>
    -- As a start tag it emits what its framing says, and as an end tag a stanza or nothing.
    obtain ⟨inside, first, second, opens, closes, rfl⟩ := emptyTag_cases h
    have opened := stands.emits_opening opens
    have closed := (stands.opening opens).emits_closing closes
    rw [Level.inside_enter] at opened closed
    cases opened with
    | silent => exact closed.emptied
    | frame place others =>
      rw [place.2] at closed
      cases closed with
      | silent => exact .frame ⟨place.1, place.1⟩ (by simpa using others)
      | frame _ others' => exact .frame ⟨place.1, place.1⟩ (by simp [others, others'])
      | stanza s place' => cases place'
    | stanza s place => exact place.elim
  | text raw =>
    rw [Reader.apply] at h
    split at h
    · cases h
    · rw [(characters_cases h).1]
      exact .silent
  | cdata raw =>
    rw [Reader.apply] at h
    split at h
    · cases h
    · rw [(characters_cases h).1]
      exact .silent
  | ignored =>
    cases h
    exact .silent

end Stands

theorem step_cases {r : Reader} (ready : r.fault = none) (x : Lexeme) :
    ((∃ e, (r.step x).1.fault = some e) ∧ (r.step x).2 = [])
      ∨ ∃ r' events, r.apply x.token = .ok (r', events) ∧ r.step x = (r'.charge x.size, events) := by
  rw [step, if_neg (by rw [ready]; simp)]
  cases applied : r.apply x.token with
  | error e => exact .inl ⟨⟨e, rfl⟩, rfl⟩
  | ok taken => exact .inr ⟨taken.1, taken.2, rfl, rfl⟩

theorem steps_concat (r : Reader) (xs : List Lexeme) (x : Lexeme) :
    r.steps (xs ++ [x]) =
      (((r.steps xs).1.step x).1, (r.steps xs).2 ++ ((r.steps xs).1.step x).2) := by
  rw [steps_append, steps, steps, List.append_nil]

/-- The last tokens of a run are those of the stanza that is open, if any. They are charged. -/
structure Underway (framing : Framing) (limit : Nat) (before opened : List Lexeme) (r : Reader) :
    Prop where
  ready : r.fault = none
  setting : SameSetting (fresh framing limit) r
  stands : Stands (Level.moves framing {} (before ++ opened)) r
  charged : r.charged = extent opened
  fits : extent opened ≤ limit
  closed : opened = [] ↔ (Level.moves framing {} (before ++ opened)).inside = 0
  spans : opened ≠ [] → Spans framing (Level.moves framing {} before) opened

/-- The last event of a run is the stanza that its last tokens are. -/
structure Delivers (framing : Framing) (limit : Nat) (before element : List Lexeme) (s : Stanza) :
    Prop where
  events : ((fresh framing limit).steps (before ++ element)).2 =
    ((fresh framing limit).steps before).2 ++ [.stanza s]
  spans : Spans framing (Level.moves framing {} before) element
  closed : (Level.moves framing {} (before ++ element)).inside = 0

namespace Underway

variable {framing : Framing} {limit : Nat} {before opened : List Lexeme} {r : Reader} {x : Lexeme}

theorem spans_concat (h : Underway framing limit before opened r)
    (begins : (Level.moves framing {} (before ++ opened)).inside ≠ 0
      ∨ (Level.moves framing {} (before ++ opened)).begins framing x.token) :
    Spans framing (Level.moves framing {} before) (opened ++ [x]) := by
  have closed := h.closed
  by_cases empty : opened = []
  · rw [empty, List.append_nil] at begins closed
    rw [empty]
    have outside := closed.1 rfl
    rcases begins with inside | begins
    · exact absurd outside inside
    · exact .single outside begins
  · apply (h.spans empty).concat
    rw [← Level.moves_append]
    exact fun outside => empty (closed.2 outside)

theorem ends (h : Underway framing limit before opened r) {i : Nat} {s : Stanza}
    (event : (r.step x).2[i]? = some (.stanza s)) :
    i = 0 ∧ (r.step x).2 = [.stanza s]
      ∧ Spans framing (Level.moves framing {} before) (opened ++ [x])
      ∧ (Level.moves framing {} (before ++ (opened ++ [x]))).inside = 0 := by
  rcases step_cases h.ready x with ⟨-, silent⟩ | ⟨r', events, applied, taken⟩
  · rw [silent] at event
    cases event
  · have framed : r.framing = framing := h.setting.framing
    have emits := h.stands.emits applied
    rw [framed] at emits
    rw [taken] at event ⊢
    rw [← List.append_assoc, Level.moves_concat]
    cases emits with
    | silent => cases event
    | frame place others => exact absurd (List.mem_of_getElem? event) (others s)
    | stanza s' place =>
      cases i with
      | zero =>
        cases event
        exact ⟨rfl, rfl, h.spans_concat place.1, place.2⟩
      | succ i => cases event

section
variable {r' : Reader} {events : List Event}

theorem reaches_end (h : Underway framing limit before opened r)
    (applied : r.apply x.token = .ok (r', events)) (closed : r'.nodes = []) :
    Underway framing limit (before ++ (opened ++ [x])) [] (r'.charging 0) := by
  have framed : r.framing = framing := h.setting.framing
  have setting := h.setting.trans (SameSetting.apply applied)
  have stands := h.stands.apply applied
  rw [framed, ← Level.moves_concat, List.append_assoc] at stands
  have outside := stands.nodes_eq_nil.1 closed
  rw [← List.append_nil (before ++ (opened ++ [x]))] at stands outside
  exact ⟨(charged_apply applied).2.trans h.ready, setting.charging 0, stands.charging 0, rfl, Nat.zero_le _,
    by simpa using outside, fun inhabited => absurd rfl inhabited⟩

theorem goes_on (h : Underway framing limit before opened r)
    (applied : r.apply x.token = .ok (r', events)) (open_ : r'.nodes ≠ [])
    (fits : r'.charged + x.size ≤ r'.limit) :
    events = []
      ∧ Underway framing limit before (opened ++ [x]) (r'.charging (r'.charged + x.size)) := by
  have framed : r.framing = framing := h.setting.framing
  have setting := h.setting.trans (SameSetting.apply applied)
  have stands := h.stands.apply applied
  have emits := h.stands.emits applied
  have same := charged_apply applied
  rw [framed, ← Level.moves_concat, List.append_assoc] at stands emits
  have inside := mt stands.nodes_eq_nil.2 open_
  have total : r'.charged + x.size = extent (opened ++ [x]) := by
    rw [same.1, h.charged, extent_append, extent_cons, extent_nil, Nat.add_zero]
  have below : extent (opened ++ [x]) ≤ limit := by
    rw [← total]
    exact fits.trans (Nat.le_of_eq setting.limit)
  refine ⟨?_, same.2.trans h.ready, setting.charging _, stands.charging _, total, below, by simp [inside],
    fun _ => h.spans_concat ?_⟩
  · cases emits with
    | silent => rfl
    | frame place others => exact absurd place.2 inside
    | stanza s place => exact absurd place.2 inside
  · by_cases outside : (Level.moves framing {} (before ++ opened)).inside = 0
    · right
      apply Level.begins_of_move outside
      rwa [← Level.moves_concat, List.append_assoc]
    · exact .inl outside

end

theorem next (h : Underway framing limit before opened r) (fine : (r.step x).1.fault = none) :
    Underway framing limit (before ++ (opened ++ [x])) [] (r.step x).1
      ∨ (r.step x).2 = [] ∧ Underway framing limit before (opened ++ [x]) (r.step x).1 := by
  rcases step_cases h.ready x with ⟨⟨e, fault⟩, -⟩ | ⟨r', events, applied, taken⟩
  · rw [fault] at fine
    cases fine
  · rw [taken] at fine ⊢
    dsimp only at fine ⊢
    by_cases closed : r'.nodes = []
    · rw [charge_of_closed closed]
      exact .inl (h.reaches_end applied closed)
    · obtain ⟨fits, charge⟩ := charge_of_open closed fine
      rw [charge]
      exact .inr (h.goes_on applied closed fits)

end Underway

section
variable (framing : Framing) (limit : Nat)

theorem underway_fresh : Underway framing limit [] [] (fresh framing limit) :=
  ⟨rfl, .refl _, .fresh framing limit, rfl, Nat.zero_le _, iff_of_true rfl rfl,
    fun inhabited => absurd rfl inhabited⟩

theorem underway_steps (xs : List Lexeme)
    (fine : ((fresh framing limit).steps xs).1.fault = none) :
    ∃ before opened, xs = before ++ opened
      ∧ ((fresh framing limit).steps xs).2 = ((fresh framing limit).steps before).2
      ∧ Underway framing limit before opened ((fresh framing limit).steps xs).1 := by
  induction xs using List.reverseRecOn with
  | nil => exact ⟨[], [], rfl, rfl, underway_fresh framing limit⟩
  | append_singleton xs x ih =>
    rw [steps_concat] at fine ⊢
    obtain ⟨before, opened, rfl, events, underway⟩ := ih (@fault_of_steps _ [x] fine)
    rcases underway.next fine with next | ⟨silent, next⟩
    · refine ⟨before ++ (opened ++ [x]), [], by simp, ?_, next⟩
      rw [← List.append_assoc, steps_concat]
    · exact ⟨before, opened ++ [x], by simp, by simp [silent, events], next⟩

theorem step_of_event {r : Reader} {xs : List Lexeme} {i : Nat} {e : Event}
    (event : (r.steps xs).2[i]? = some e) :
    ∃ before x after j, xs = before ++ x :: after ∧ (r.steps before).1.fault = none
      ∧ ((r.steps before).1.step x).2[j]? = some e ∧ i = (r.steps before).2.length + j := by
  induction xs using List.reverseRecOn with
  | nil => cases event
  | append_singleton xs x ih =>
    rw [steps_concat] at event
    dsimp only at event
    rw [List.getElem?_append] at event
    split_ifs at event with earlier
    · obtain ⟨before, y, after, j, rfl, fine, there, place⟩ := ih event
      exact ⟨before, y, after ++ [x], j, by simp, fine, there, place⟩
    · refine ⟨xs, x, [], _, rfl, ?_, event, by omega⟩
      cases fault : (r.steps xs).1.fault with
      | none => rfl
      | some e =>
        rw [step_of_fault (by rw [fault]; rfl)] at event
        cases event

/-- A stanza that comes out with a token consists of the tokens charged and this one. -/
theorem Underway.delivers {before opened : List Lexeme} {x : Lexeme} {i : Nat} {s : Stanza}
    (h : Underway framing limit before opened ((fresh framing limit).steps (before ++ opened)).1)
    (quiet : ((fresh framing limit).steps (before ++ opened)).2 =
      ((fresh framing limit).steps before).2)
    (event : (((fresh framing limit).steps (before ++ opened)).1.step x).2[i]? = some (.stanza s)) :
    i = 0 ∧ Delivers framing limit before (opened ++ [x]) s := by
  obtain ⟨first, alone, spans, closed⟩ := h.ends event
  refine ⟨first, ?_, spans, closed⟩
  rw [← List.append_assoc, steps_concat, quiet, alone]

theorem delivers_of_event {xs : List Lexeme} {i : Nat} {s : Stanza}
    (event : ((fresh framing limit).steps xs).2[i]? = some (.stanza s)) :
    ∃ before element after, xs = before ++ (element ++ after)
      ∧ ((fresh framing limit).steps before).2.length = i
      ∧ Delivers framing limit before element s ∧ extent element.dropLast ≤ limit := by
  obtain ⟨xs, x, after, j, rfl, fine, event, place⟩ := step_of_event event
  obtain ⟨before, opened, rfl, quiet, underway⟩ := underway_steps framing limit xs fine
  obtain ⟨rfl, delivers⟩ := Underway.delivers framing limit underway quiet event
  -- The token that ends the stanza is not charged, so only the others are known to fit.
  refine ⟨before, opened ++ [x], after, by simp, by rw [place, quiet, Nat.add_zero], delivers, ?_⟩
  rw [List.dropLast_concat]
  exact underway.fits

end

theorem Slice.Reads.length {s : Slice} (reads : s.Reads) : s.bytes.length = s.lexeme.size := by
  obtain ⟨rest, front⟩ := reads
  have total := front_length front
  rw [List.length_append] at total
  omega

theorem extent_map_lexeme {ss : List Slice} (reads : ∀ s ∈ ss, s.Reads) :
    extent (ss.map Slice.lexeme) = (ss.flatMap Slice.bytes).length := by
  induction ss with
  | nil => rfl
  | cons s ss ih =>
    rw [List.forall_mem_cons] at reads
    rw [List.map_cons, extent_cons, ih reads.2, List.flatMap_cons, List.length_append,
      reads.1.length]

/-- Each stanza that comes out was read from an element of the input, from its start tag to its end.
Without the last token of it, it has no more bytes than the limit. -/
theorem stanza_fits_before_end (framing : Framing) (limit : Nat) (pieces : List Bytes) (i : Nat)
    (s : Stanza) (event : ((fresh framing limit).pushAll pieces).2[i]? = some (.stanza s)) :
    ∃ before element after : List Slice,
      (fresh framing limit).slicesAll pieces = before ++ (element ++ after)
      ∧ ((fresh framing limit).steps (before.map Slice.lexeme)).2.length = i
      ∧ Delivers framing limit (before.map Slice.lexeme) (element.map Slice.lexeme) s
      ∧ (element.dropLast.flatMap Slice.bytes).length ≤ limit := by
  rw [events_pushAll rfl] at event
  obtain ⟨xs, ys, zs, split, place, delivers, fits⟩ := delivers_of_event framing limit event
  obtain ⟨before, rest, slices, rfl, split'⟩ := List.map_eq_append_iff.1 split
  obtain ⟨element, after, rfl, rfl, rfl⟩ := List.map_eq_append_iff.1 split'
  refine ⟨before, element, after, slices, place, delivers, ?_⟩
  have reads : ∀ s ∈ element.dropLast, s.Reads := by
    intro s mem
    apply reads_slicesAll (fresh framing limit) pieces
    rw [slices, List.mem_append, List.mem_append]
    exact .inr (.inl (List.dropLast_subset _ mem))
  rwa [← extent_map_lexeme reads, List.map_dropLast]

def latePieces : List Bytes := [Utf8.encode "<a>xy</", Utf8.encode "a    >"]

theorem stanza_fits_before_end_latePieces :
    ((fresh .standalone 8).pushAll latePieces).2[0]? =
        some (.stanza { name := "a", ns := "", text := some "xy" })
      ∧ ∃ before element after : List Slice,
        (fresh .standalone 8).slicesAll latePieces = before ++ (element ++ after)
        ∧ ((fresh .standalone 8).steps (before.map Slice.lexeme)).2.length = 0
        ∧ Delivers .standalone 8 (before.map Slice.lexeme) (element.map Slice.lexeme)
          { name := "a", ns := "", text := some "xy" }
        ∧ (element.dropLast.flatMap Slice.bytes).length ≤ 8 :=
  have event : ((fresh .standalone 8).pushAll latePieces).2[0]? =
      some (.stanza { name := "a", ns := "", text := some "xy" }) := by decide +kernel
  ⟨event, stanza_fits_before_end .standalone 8 latePieces 0 _ event⟩

/-- An empty element is its own last token, and is never charged. -/
theorem not_always_fits :
    ¬ ∀ (framing : Framing) (limit : Nat) (pieces : List Bytes) (i : Nat) (s : Stanza),
      ((fresh framing limit).pushAll pieces).2[i]? = some (.stanza s) →
      ∃ before element after : List Slice,
        (fresh framing limit).slicesAll pieces = before ++ (element ++ after)
        ∧ ((fresh framing limit).steps (before.map Slice.lexeme)).2.length = i
        ∧ Delivers framing limit (before.map Slice.lexeme) (element.map Slice.lexeme) s
        ∧ (element.flatMap Slice.bytes).length ≤ limit := by
  intro always
  obtain ⟨before, element, after, slices, -, delivers, fits⟩ :=
    always .standalone 8 [Utf8.encode "<message/>"] 0 { name := "message", ns := "" }
      (by decide +kernel)
  have single : (fresh .standalone 8).slicesAll [Utf8.encode "<message/>"] =
      [⟨⟨.empty (Utf8.encode "message"), 10⟩, Utf8.encode "<message/>"⟩] := by decide +kernel
  obtain ⟨first, head, -⟩ := delivers.spans.begins
  rw [single] at slices
  rcases List.append_eq_singleton_iff.1 slices.symm with ⟨-, rest⟩ | ⟨-, rest⟩
  · rcases List.append_eq_singleton_iff.1 rest with ⟨rfl, -⟩ | ⟨rfl, -⟩
    · cases head
    · revert fits
      decide +kernel
  · rw [(List.append_eq_nil_iff.1 rest).1] at head
    cases head

end XmppStream.Reader
