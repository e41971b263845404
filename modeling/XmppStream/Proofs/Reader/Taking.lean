import XmppStream.Proofs.Header
import XmppStream.Proofs.Node.Reading

/-! Reading written text piece by piece. Between stanzas nothing is charged, so each stanza has the
whole limit for itself, however long the stream is. -/

namespace XmppStream.Reader
open Markup Reference

/-- The text takes the reader from one state to another, whatever follows it. -/
def Takes (r : Reader) (text : String) (r' : Reader) (events : List Event) : Prop :=
  ∃ xs, (∀ rest, lex (Utf8.encode text ++ rest) = (xs ++ (lex rest).1, (lex rest).2))
    ∧ r.steps xs = (r', events)

structure Idle (r : Reader) : Prop where
  ready : r.fault = none
  nodes : r.nodes = []
  charged : r.charged = 0

theorem charged_step {r : Reader} {x : Lexeme} (fine : (r.step x).1.fault = none)
    (closed : (r.step x).1.nodes = []) : (r.step x).1.charged = 0 := by
  have ready : r.fault = none := @fault_of_steps r [x] fine
  unfold step at fine closed ⊢
  rw [ready] at fine closed ⊢
  cases h : r.apply x.token with
  | error e =>
    rw [h] at fine
    cases fine
  | ok taken =>
    rw [h] at closed
    dsimp only [Option.isSome_none] at closed ⊢
    rw [if_neg (by simp)] at closed ⊢
    dsimp only at closed ⊢
    unfold charge at closed ⊢
    dsimp only at closed ⊢
    split_ifs at closed ⊢ with open_ large
    · rfl
    · exact absurd closed open_
    · exact absurd closed open_

theorem charged_steps {r : Reader} {xs : List Lexeme} (before : r.nodes = [] → r.charged = 0)
    (fine : (r.steps xs).1.fault = none) (closed : (r.steps xs).1.nodes = []) :
    (r.steps xs).1.charged = 0 := by
  induction xs generalizing r with
  | nil => exact before closed
  | cons x xs ih => exact ih (charged_step (fault_of_steps fine)) fine closed

namespace Takes

theorem nil (r : Reader) : Takes r "" r [] := ⟨[], fun _ => rfl, rfl⟩

theorem append {r r' r'' : Reader} {text more : String} {events events' : List Event}
    (h : Takes r text r' events) (h' : Takes r' more r'' events') :
    Takes r (text ++ more) r'' (events ++ events') := by
  obtain ⟨xs, cut, took⟩ := h
  obtain ⟨ys, cut', took'⟩ := h'
  refine ⟨xs ++ ys, fun rest => ?_, ?_⟩
  · rw [Utf8.encode_append, List.append_assoc, cut, cut', List.append_assoc]
  · rw [steps_append, took]
    dsimp only
    rw [took']

theorem token {r r' : Reader} (idle : Idle r) {text : String} {t : Token} {events : List Event}
    (lexes : Lexes text [t]) (h : r.apply t = .ok (r', events)) (nodes : r'.nodes = []) :
    Takes r text r' events ∧ Idle r' := by
  obtain ⟨xs, tokens, -, cut⟩ := lexes
  obtain ⟨x, rfl, rfl⟩ := List.map_eq_singleton_iff.1 tokens
  obtain ⟨charged, ready⟩ := charged_apply h
  have same : r'.charge x.size = r' := by
    unfold charge
    rw [if_pos nodes, ← charged.trans idle.charged]
  refine ⟨⟨[x], cut, ?_⟩, ready.trans idle.ready, nodes, charged.trans idle.charged⟩
  rw [steps, steps, step, if_neg (by rw [idle.ready]; simp), h]
  dsimp only
  rw [same, List.append_nil]

theorem stanza_inForce {framing : Framing} {r : Reader} {place : Place} (top : Top framing r place)
    (idle : Idle r) {s : Stanza} (legible : s.All Legible) {around : Option String} {above : Around}
    (inForce : InForce above around s.ns)
    (enters : place.enter? framing (Reference.startTag around s) =
      some (.stanza (s.declared around :: above) s.bare))
    (fits : (Utf8.encode (s.write around)).length ≤ r.limit) :
    Takes r (s.write around) r [.stanza s] := by
  obtain ⟨ts, ⟨xs, tokens, extent_xs, cut⟩, reads⟩ := run_stanza legible around
  have ran := reads framing r place above top inForce enters
  have room : r.charged + extent xs ≤ r.limit := by
    rw [idle.charged, extent_xs]
    omega
  obtain ⟨c, -, took⟩ := steps_eq_run idle.ready room
  rw [tokens, ran] at took
  -- The end of the stanza gives back what was charged for it.
  have back : (r.steps xs).1.charged = 0 := by
    apply charged_steps fun _ => idle.charged
    · rw [took]
      exact idle.ready
    · rw [took]
      exact idle.nodes
  have same : r.charging c = r := by
    rw [took] at back
    have zero : c = 0 := back
    rw [zero, ← idle.charged]
    rfl
  refine ⟨xs, cut, ?_⟩
  rw [took, same]

theorem stanza {framing : Framing} {r : Reader} {place : Place} (top : Top framing r place)
    (idle : Idle r) {s : Stanza} (legible : s.All Legible) {around : Option String} {above : Around}
    (surrounds : Surrounds above around)
    (enters : place.enter? framing (Reference.startTag around s) =
      some (.stanza (s.declared around :: above) s.bare))
    (fits : (Utf8.encode (s.write around)).length ≤ r.limit) :
    Takes r (s.write around) r [.stanza s] :=
  stanza_inForce top idle legible (surrounds.inForce _) enters fits

theorem stanzas {framing : Framing} {r : Reader} {place : Place} (top : Top framing r place)
    (idle : Idle r) {around : Option String} {above : Around} (surrounds : Surrounds above around)
    {ss : List Stanza} (legible : ∀ s ∈ ss, s.All Legible)
    (enters : ∀ s ∈ ss, place.enter? framing (Reference.startTag around s) =
      some (.stanza (s.declared around :: above) s.bare))
    (fits : ∀ s ∈ ss, (Utf8.encode (s.write around)).length ≤ r.limit) :
    Takes r (String.join (ss.map (·.write around))) r (ss.map .stanza) := by
  induction ss with
  | nil => exact nil r
  | cons s ss ih =>
    rw [List.forall_mem_cons] at legible enters fits
    rw [List.map_cons, String.join_cons]
    exact (stanza top idle legible.1 surrounds enters.1 fits.1).append (ih legible.2 enters.2 fits.2)

theorem setting {r r' : Reader} {text : String} {events : List Event} (h : Takes r text r' events) :
    SameSetting r r' := by
  obtain ⟨xs, -, took⟩ := h
  have same := SameSetting.steps r xs
  rwa [took] at same

theorem push {r r' : Reader} {text : String} {events : List Event} (h : Takes r text r' events)
    (ready : r.fault = none) (kept : r.kept = []) (mark : ¬ byteOrderMark <+: Utf8.encode text) :
    r.push (Utf8.encode text) = (r', events) := by
  obtain ⟨xs, cut, took⟩ := h
  have nothing : lex [] = ([], .text []) := lex_of_ending rfl
  have whole := cut []
  rw [nothing, List.append_nil, List.append_nil] at whole
  rw [push_of_complete ready kept mark (by rw [whole]), whole, took]

end Takes

theorem not_mark_of_beginsTag {text : String} (h : BeginsTag text) :
    ¬ byteOrderMark <+: Utf8.encode text := by
  obtain ⟨r, begins⟩ := h
  rw [begins]
  unfold byteOrderMark
  intro mark
  exact absurd (List.cons_prefix_cons.1 mark).1 (by decide)

end XmppStream.Reader
