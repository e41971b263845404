import Mathlib.Data.List.Forall2
import XmppStream.Proofs.Reader.Descent
import XmppStream.Proofs.Reader.Report

/-! Readers that differ only in the pieces of the text of their open nodes. No token tells them
apart, since the pieces are joined when a node is finished. -/

namespace XmppStream.Reader
open Markup Reference

/-- Two open nodes with the same content, whatever pieces its text came in. -/
structure SameContent (n m : OpenNode) : Prop where
  node : n.node = m.node
  text : String.join n.text.reverse = String.join m.text.reverse
  children : n.children = m.children

namespace SameContent

theorem refl (n : OpenNode) : SameContent n n := ⟨rfl, rfl, rfl⟩

variable {n m : OpenNode}

theorem close_eq (h : SameContent n m) : n.close = m.close := by
  have holds : Holds n n.node ⟨String.join n.text.reverse, n.children.reverse⟩ := ⟨rfl, rfl, rfl⟩
  have holds' : Holds m n.node ⟨String.join n.text.reverse, n.children.reverse⟩ :=
    ⟨h.node.symm, h.text.symm, by rw [h.children]⟩
  rw [holds.close_eq, holds'.close_eq]

theorem addText (h : SameContent n m) (more : String) :
    SameContent { n with text := more :: n.text } { m with text := more :: m.text } := by
  refine ⟨h.node, ?_, h.children⟩
  simp only [List.reverse_cons, String.join_append, h.text]

theorem addChild (h : SameContent n m) (child : Node) :
    SameContent { n with children := child :: n.children }
      { m with children := child :: m.children } :=
  ⟨h.node, h.text, congrArg (child :: ·) h.children⟩

theorem join (n : OpenNode) (first second : String) :
    SameContent { n with text := second :: first :: n.text }
      { n with text := (first ++ second) :: n.text } := by
  refine ⟨rfl, ?_, rfl⟩
  simp [String.join_append, String.join_cons]

end SameContent

/-- The readers differ in the pieces of the text of their open nodes alone. -/
def Alike (r s : Reader) : Prop :=
  ∃ nodes, s = holding r nodes ∧ List.Forall₂ SameContent r.nodes nodes

inductive TakenAlike : (taken taken' : Except ReaderFault (Reader × List Event)) → Prop where
  | refused (e : ReaderFault) : TakenAlike (.error e) (.error e)
  | taken {r s : Reader} {events : List Event} (alike : Alike r s) :
      TakenAlike (.ok (r, events)) (.ok (s, events))

/-- The same as far as it can be seen, but for the fault of runs that fail. -/
structure SameOutcome (p q : Reader × List Event) : Prop where
  events : p.2 = q.2
  fails : p.1.fault.isSome = q.1.fault.isSome
  depth : p.1.depth = q.1.depth
  finished : p.1.finished = q.1.finished

namespace Alike

variable {r s : Reader}

theorem refl (r : Reader) : Alike r r :=
  ⟨r.nodes, rfl, List.forall₂_same.2 fun n _ => .refl n⟩

theorem enterTop (h : Alike r s) (t : StartTag) (ns : String) (prefixes : Table) :
    TakenAlike (r.enterTop t ns prefixes) (s.enterTop t ns prefixes) := by
  obtain ⟨nodes, rfl, same⟩ := h
  rw [Reader.enterTop, Reader.enterTop, show (holding r nodes).framing = r.framing from rfl]
  cases r.framing with
  | standalone => exact .taken ⟨_, rfl, .cons (.refl _) same⟩
  | stream =>
    dsimp only
    split_ifs
    · exact .taken ⟨nodes, rfl, same⟩
    · exact .refused _
  | webSocket =>
    dsimp only
    split_ifs
    · exact .taken ⟨nodes, rfl, same⟩
    · exact .taken ⟨nodes, rfl, same⟩
    · exact .refused _
    · exact .taken ⟨_, rfl, .cons (.refl _) same⟩

theorem opening (h : Alike r s) (content : Bytes) :
    TakenAlike (r.opening content) (s.opening content) := by
  have top := h.enterTop
  obtain ⟨nodes, rfl, same⟩ := h
  rw [Reader.opening, Reader.opening]
  cases decodeName (tagName content) with
  | error e => exact .refused _
  | ok name =>
    dsimp only
    rw [show (holding r nodes).finished = r.finished from rfl,
      show (holding r nodes).inFraming = r.inFraming from rfl]
    split_ifs
    · exact .refused _
    · exact .refused _
    cases StartTag.read name content with
    | error e => exact .refused _
    | ok t =>
      dsimp only
      rw [startTag, startTag, show (holding r nodes).scopes = r.scopes from rfl,
        show (holding r nodes).depth = r.depth from rfl]
      cases t.elementNs (t.scope :: r.scopes) with
      | error e => exact .refused _
      | ok ns =>
        dsimp only
        cases StartTag.attrPrefixes t.name (t.scope :: r.scopes) [] t.attrs with
        | error e => exact .refused _
        | ok prefixes =>
          dsimp only
          split_ifs
          · exact top t ns prefixes
          · exact .taken ⟨_, rfl, .cons (.refl _) same⟩

theorem leave (h : Alike r s) (name : String) : TakenAlike (r.leave name) (s.leave name) := by
  obtain ⟨nodes, rfl, same⟩ := h
  rw [Reader.leave, Reader.leave, show (holding r nodes).inFraming = r.inFraming from rfl,
    show (holding r nodes).framing = r.framing from rfl,
    show (holding r nodes).depth = r.depth from rfl,
    show (holding r nodes).nodes = nodes from rfl]
  dsimp only
  split_ifs
  · exact .taken ⟨nodes, rfl, same⟩
  · exact .taken ⟨nodes, rfl, same⟩
  · exact .taken ⟨nodes, rfl, same⟩
  · generalize r.nodes = inner at same ⊢
    cases same with
    | nil => exact .refused _
    | cons first rest =>
      cases rest with
      | nil =>
        dsimp only
        rw [first.close_eq]
        exact .taken ⟨[], rfl, .nil⟩
      | cons second rest =>
        dsimp only
        rw [first.close_eq]
        exact .taken ⟨_, rfl, .cons (second.addChild _) rest⟩

theorem closing (h : Alike r s) (name : Bytes) : TakenAlike (r.closing name) (s.closing name) := by
  obtain ⟨nodes, rfl, same⟩ := h
  rw [Reader.closing, Reader.closing]
  cases decodeName name with
  | error e => exact .refused _
  | ok name =>
    dsimp only
    rw [endTag, endTag, show (holding r nodes).names = r.names from rfl]
    cases r.names with
    | nil => exact .refused _
    | cons expected names =>
      dsimp only
      split_ifs
      · have outside : Alike { r with names, scopes := r.scopes.tail, depth := r.depth - 1 }
            { holding r nodes with names, scopes := r.scopes.tail, depth := r.depth - 1 } :=
          ⟨nodes, rfl, same⟩
        exact outside.leave name
      · exact .refused _

theorem emptyTag (h : Alike r s) (content : Bytes) :
    TakenAlike (r.emptyTag content) (s.emptyTag content) := by
  have opened := h.opening content
  rw [Reader.emptyTag, Reader.emptyTag]
  generalize r.opening content = taken at opened ⊢
  generalize s.opening content = taken' at opened ⊢
  cases opened with
  | refused e => exact .refused e
  | @taken inside inside' first alike =>
    have closed := alike.closing (tagName content)
    dsimp only
    generalize inside.closing (tagName content) = taken at closed ⊢
    generalize inside'.closing (tagName content) = taken' at closed ⊢
    cases closed with
    | refused e => exact .refused e
    | taken alike => exact .taken alike

theorem characters (h : Alike r s) (text : String) :
    TakenAlike (r.characters text) (s.characters text) := by
  have whole := h
  obtain ⟨nodes, rfl, same⟩ := h
  rw [Reader.characters, Reader.characters, show (holding r nodes).nodes = nodes from rfl,
    show (holding r nodes).finished = r.finished from rfl]
  cases inner : r.nodes with
  | nil =>
    rw [inner] at same
    cases same
    dsimp only
    split_ifs
    · exact .refused _
    · exact .taken whole
  | cons n outer =>
    rw [inner] at same
    cases same with
    | cons first rest => exact .taken ⟨_, rfl, .cons (first.addText text) rest⟩

theorem apply (h : Alike r s) (t : Token) : TakenAlike (r.apply t) (s.apply t) := by
  cases t with
  | opening content => exact h.opening content
  | empty content => exact h.emptyTag content
  | closing name => exact h.closing name
  | text raw =>
    rw [Reader.apply, Reader.apply]
    cases decodeText raw with
    | error e => exact .refused _
    | ok text => exact h.characters text
  | cdata raw =>
    rw [Reader.apply, Reader.apply]
    cases decodeName raw with
    | error e => exact .refused _
    | ok text => exact h.characters text
  | ignored => exact .taken h

end Alike

namespace SameOutcome

variable {p q : Reader × List Event}

theorem refl (p : Reader × List Event) : SameOutcome p p := ⟨rfl, rfl, rfl, rfl⟩

theorem symm (h : SameOutcome p q) : SameOutcome q p :=
  ⟨h.events.symm, h.fails.symm, h.depth.symm, h.finished.symm⟩

theorem trans {o : Reader × List Event} (h : SameOutcome p q) (h' : SameOutcome q o) :
    SameOutcome p o :=
  ⟨h.events.trans h'.events, h.fails.trans h'.fails, h.depth.trans h'.depth,
    h.finished.trans h'.finished⟩

theorem after (h : SameOutcome p q) (events : List Event) :
    SameOutcome (p.1, events ++ p.2) (q.1, events ++ q.2) :=
  ⟨congrArg (events ++ ·) h.events, h.fails, h.depth, h.finished⟩

theorem run_append {r : Reader} (ready : r.fault = none) (ts : List Token) {us us' : List Token}
    (same : SameOutcome ((r.run ts).1.run us) ((r.run ts).1.run us')) :
    SameOutcome (r.run (ts ++ us)) (r.run (ts ++ us')) := by
  rw [Reader.run_append ready, Reader.run_append ready]
  split_ifs
  · exact .refl _
  · exact same.after _

end SameOutcome

/-- Runs of readers alike have the same outcome. -/
theorem Alike.run {r s : Reader} (h : Alike r s) (ts : List Token) :
    SameOutcome (r.run ts) (s.run ts) := by
  induction ts generalizing r s with
  | nil =>
    obtain ⟨nodes, rfl, -⟩ := h
    exact ⟨rfl, rfl, rfl, rfl⟩
  | cons t ts ih =>
    have taken := h.apply t
    obtain ⟨nodes, rfl, -⟩ := h
    rw [Reader.run, Reader.run]
    generalize r.apply t = x at taken ⊢
    generalize (holding r nodes).apply t = y at taken ⊢
    cases taken with
    | refused e => exact ⟨rfl, rfl, rfl, rfl⟩
    | taken alike => exact (ih alike).after _

end XmppStream.Reader
