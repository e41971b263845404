import Mathlib.Tactic.SplitIfs
import XmppStream.Reader.Basic

/-! What a token does to the reader, and why it is refused where it is. -/

namespace XmppStream.Reader
open Markup

inductive Opens (r : Reader) (t : StartTag) : Reader → List Event → Prop where
  | node (ns : String) (prefixes : Table) (stanza : r.depth = 0 → r.framing ≠ .stream) :
      Opens r t (r.enterNode t ns prefixes) []
  | wrapper (top : r.depth = 0) (stream : r.framing = .stream) :
      Opens r t (r.enter t.name (t.scope :: r.scopes))
        [.opened (Header.ofAttrs t.lang t.scope.defaultNs t.attrs)]
  | frame (top : r.depth = 0) (webSocket : r.framing = .webSocket) {events : List Event}
      (kind : (QName.ofString t.name).localName = "open"
          ∧ events = [.opened (Header.ofAttrs t.lang none t.attrs)]
        ∨ (QName.ofString t.name).localName = "close" ∧ events = []) :
      Opens r t { r.enter t.name (t.scope :: r.scopes) with inFraming := true } events

inductive Leaves (r : Reader) (name : String) : Reader → List Event → Prop where
  | close (inside : r.inFraming = true) (kind : lastPart name = "close") :
      Leaves r name { r with inFraming := false, finished := true } [.closed]
  | frame (inside : r.inFraming = true) (kind : lastPart name ≠ "close") :
      Leaves r name { r with inFraming := false } []
  | wrapper (between : r.inFraming = false) (stream : r.framing = .stream) (top : r.depth = 0) :
      Leaves r name { r with finished := true } [.closed]
  | stanza (between : r.inFraming = false) (deep : r.framing = .stream → r.depth ≠ 0)
      {n : OpenNode} (last : r.nodes = [n]) :
      Leaves r name { r with nodes := [] } [.stanza n.close]
  | child (between : r.inFraming = false) (deep : r.framing = .stream → r.depth ≠ 0)
      {n parent : OpenNode} {nodes : List OpenNode} (inner : r.nodes = n :: parent :: nodes) :
      Leaves r name
        { r with nodes := { parent with children := n.close :: parent.children } :: nodes } []

inductive RefusesOpening : ReaderFault → Prop where
  | markup (why : MarkupFault) : RefusesOpening (.markup why)
  | afterClose (name : String) : RefusesOpening (.framing (.afterClose name))
  | insideFraming (name : String) : RefusesOpening (.framing (.insideFraming name))
  | notStream (name ns : String) : RefusesOpening (.framing (.notStream name ns))
  | unknownFraming (name : String) : RefusesOpening (.framing (.unknownFraming name))

inductive RefusesClosing (r : Reader) : ReaderFault → Prop where
  | markup (why : MarkupFault) : RefusesClosing r (.markup why)
  | outsideStanza (name : String) (inhabited : r.names ≠ []) (between : r.inFraming = false)
      (deep : r.framing = .stream → r.depth - 1 ≠ 0) (none : r.nodes = []) :
      RefusesClosing r (.framing (.outsideStanza name))

def ending? (r : Reader) : Token → Option Reader
  | .closing _ => some r
  | .empty content => (r.opening content).toOption.map Prod.fst
  | .opening _ | .text _ | .cdata _ | .ignored => none

inductive Refuses (r : Reader) (t : Token) : ReaderFault → Prop where
  | opening {e : ReaderFault} (why : RefusesOpening e) : Refuses r t e
  | closing {inside : Reader} {e : ReaderFault} (ends : r.ending? t = some inside)
      (why : RefusesClosing inside e) : Refuses r t e
  | text (why : MarkupFault) : Refuses r t (.markup why)
  | textAfterClose : Refuses r t (.framing .textAfterClose)

variable {r r' : Reader} {events : List Event}

theorem opens_of_enterTop {t : StartTag} {ns : String} {prefixes : Table} (top : r.depth = 0)
    (h : r.enterTop t ns prefixes = .ok (r', events)) : Opens r t r' events := by
  unfold enterTop at h
  dsimp only at h
  cases framed : r.framing with
  | standalone =>
    rw [framed] at h
    cases h
    exact .node ns prefixes fun _ => by rw [framed]; simp
  | stream =>
    rw [framed] at h
    dsimp only at h
    split_ifs at h
    cases h
    exact .wrapper top framed
  | webSocket =>
    rw [framed] at h
    dsimp only at h
    split_ifs at h with framing opening closing
    · cases h
      exact .frame top framed (.inl ⟨opening, rfl⟩)
    · cases h
      exact .frame top framed (.inr ⟨closing, rfl⟩)
    · cases h
      exact .node ns prefixes fun _ => by rw [framed]; simp

theorem opens_of_opening {content : Bytes} (h : r.opening content = .ok (r', events)) :
    r.finished = false ∧ r.inFraming = false ∧ ∃ name t, decodeName (tagName content) = .ok name
      ∧ StartTag.read name content = .ok t ∧ Opens r t r' events := by
  unfold opening at h
  cases decoded : decodeName (tagName content) with
  | error e =>
    rw [decoded] at h
    cases h
  | ok name =>
    rw [decoded] at h
    dsimp only at h
    split_ifs at h with ended inside
    cases read : StartTag.read name content with
    | error e =>
      rw [read] at h
      cases h
    | ok t =>
      rw [read] at h
      dsimp only at h
      refine ⟨by simpa using ended, by simpa using inside, name, t, rfl, read, ?_⟩
      unfold startTag at h
      dsimp only at h
      split at h
      · cases h
      split at h
      · cases h
      split_ifs at h with top
      · exact opens_of_enterTop top h
      · cases h
        exact .node _ _ fun outside => absurd outside top

theorem leaves_of_leave {name : String} (h : r.leave name = .ok (r', events)) :
    Leaves r name r' events := by
  unfold leave at h
  dsimp only at h
  split_ifs at h with inside kind wrapper
  · cases h
    exact .close inside kind
  · cases h
    exact .frame inside kind
  · cases h
    exact .wrapper (by simpa using inside) wrapper.1 wrapper.2
  · have between : r.inFraming = false := by simpa using inside
    have deep : r.framing = .stream → r.depth ≠ 0 := fun stream top => wrapper ⟨stream, top⟩
    split at h
    · cases h
    · next n last =>
      cases h
      exact .stanza between deep last
    · next n parent nodes inner =>
      cases h
      exact .child between deep inner

theorem leaves_of_closing {closed : Bytes} (h : r.closing closed = .ok (r', events)) :
    ∃ name names, decodeName closed = .ok name ∧ r.names = name :: names
      ∧ Leaves { r with names, scopes := r.scopes.tail, depth := r.depth - 1 } name r' events := by
  unfold closing at h
  cases decoded : decodeName closed with
  | error e =>
    rw [decoded] at h
    cases h
  | ok name =>
    rw [decoded] at h
    dsimp only at h
    unfold endTag at h
    cases innermost : r.names with
    | nil =>
      rw [innermost] at h
      cases h
    | cons opened names =>
      rw [innermost] at h
      dsimp only at h
      split_ifs at h with same
      subst same
      exact ⟨opened, names, rfl, rfl, leaves_of_leave h⟩

theorem emptyTag_cases {content : Bytes} (h : r.emptyTag content = .ok (r', events)) :
    ∃ inside first second, r.opening content = .ok (inside, first)
      ∧ inside.closing (tagName content) = .ok (r', second) ∧ events = first ++ second := by
  unfold emptyTag at h
  cases opens : r.opening content with
  | error e =>
    rw [opens] at h
    cases h
  | ok taken =>
    obtain ⟨inside, first⟩ := taken
    rw [opens] at h
    dsimp only at h
    cases closes : inside.closing (tagName content) with
    | error e =>
      rw [closes] at h
      cases h
    | ok taken =>
      rw [closes] at h
      cases h
      exact ⟨inside, first, taken.2, rfl, closes, rfl⟩

theorem characters_cases {text : String} (h : r.characters text = .ok (r', events)) :
    events = [] ∧ ((∃ n nodes, r.nodes = n :: nodes
          ∧ r' = { r with nodes := { n with text := text :: n.text } :: nodes })
        ∨ r' = r) := by
  unfold characters at h
  split at h
  · next n nodes inner =>
    cases h
    exact ⟨rfl, .inl ⟨n, nodes, inner, rfl⟩⟩
  · split_ifs at h
    cases h
    exact ⟨rfl, .inr rfl⟩

section
variable {e : ReaderFault}

theorem refusesOpening_of_enterTop {t : StartTag} {ns : String} {prefixes : Table}
    (h : r.enterTop t ns prefixes = .error e) : RefusesOpening e := by
  unfold enterTop at h
  dsimp only at h
  split at h
  · cases h
  · split_ifs at h
    cases h
    exact .notStream _ _
  · split_ifs at h
    cases h
    exact .unknownFraming _

theorem refusesOpening_of_startTag {t : StartTag} (h : r.startTag t = .error e) :
    RefusesOpening e := by
  unfold startTag at h
  dsimp only at h
  split at h
  · cases h
    exact .markup _
  · split at h
    · cases h
      exact .markup _
    · split_ifs at h
      exact refusesOpening_of_enterTop h

theorem refusesOpening_of_opening {content : Bytes} (h : r.opening content = .error e) :
    RefusesOpening e := by
  unfold opening at h
  split at h
  · cases h
    exact .markup _
  · split_ifs at h
    · cases h
      exact .afterClose _
    · cases h
      exact .insideFraming _
    · split at h
      · cases h
        exact .markup _
      · exact refusesOpening_of_startTag h

theorem refusesClosing_of_closing {closed : Bytes} (h : r.closing closed = .error e) :
    RefusesClosing r e := by
  unfold closing endTag at h
  split at h
  · cases h
    exact .markup _
  · split at h
    · cases h
      exact .markup _
    · next expected names inhabited =>
      split_ifs at h
      · unfold leave at h
        dsimp only at h
        split_ifs at h with inside kind wrapper
        split at h
        · next none =>
          cases h
          refine .outsideStanza _ (by rw [inhabited]; simp) (by simpa using inside) ?_ none
          exact fun stream top => wrapper ⟨stream, top⟩
        · cases h
        · cases h
      · cases h
        exact .markup _

theorem refuses_of_characters {text : String} (h : r.characters text = .error e) (t : Token) :
    Refuses r t e := by
  unfold characters at h
  split at h
  · cases h
  · split_ifs at h
    cases h
    exact .textAfterClose

theorem refuses_of_apply {t : Token} (h : r.apply t = .error e) : Refuses r t e := by
  cases t with
  | opening content => exact .opening (refusesOpening_of_opening h)
  | closing name => exact .closing rfl (refusesClosing_of_closing h)
  | empty content =>
    rw [apply, emptyTag] at h
    split at h
    · next opens =>
      cases h
      exact .opening (refusesOpening_of_opening opens)
    · next inside first opens =>
      have ends : r.ending? (.empty content) = some inside := by rw [ending?, opens]; rfl
      split at h
      · next closes =>
        cases h
        exact .closing ends (refusesClosing_of_closing closes)
      · cases h
  | text raw =>
    rw [apply] at h
    split at h
    · cases h
      exact .text _
    · exact refuses_of_characters h _
  | cdata raw =>
    rw [apply] at h
    split at h
    · cases h
      exact .text _
    · exact refuses_of_characters h _
  | ignored => cases h

end

end XmppStream.Reader
