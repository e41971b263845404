import XmppStream.Proofs.Reader.Charging
import XmppStream.Proofs.Reader.Tag

/-! The reader keeps the open elements on stacks. Inside an element it does what the reference does
by recursion: up to the end tag of the element it builds the same content. -/

namespace XmppStream.Reference
open Markup

/-- An open node of the reader has the content that was read of an element. -/
structure Holds (n : OpenNode) (node : Node) (body : Body) : Prop where
  node : n.node = node
  text : String.join n.text.reverse = body.text
  children : n.children.reverse = body.children

namespace Holds

theorem fresh (node : Node) : Holds { node } node {} := ⟨rfl, rfl, rfl⟩

variable {n : OpenNode} {node : Node} {body : Body}

theorem addText (h : Holds n node body) (more : String) :
    Holds { n with text := more :: n.text } node (body.addText more) := by
  refine ⟨h.node, ?_, h.children⟩
  rw [List.reverse_cons, String.join_append, h.text, String.join_cons, String.join_nil,
    String.append_empty, Body.addText]

theorem addChild (h : Holds n node body) (child : Node) :
    Holds { n with children := child :: n.children } node (body.addChild child) := by
  refine ⟨h.node, h.text, ?_⟩
  rw [List.reverse_cons, h.children, Body.addChild]

theorem close_eq (h : Holds n node body) : n.close = body.finish node := by
  rw [OpenNode.close, Body.finish, h.node, h.children, h.text]
  have text : (if n.text = [] then none else substance (some body.text)) =
      if body.text.toList.all isAsciiBlank then none else some body.text := by
    rw [substance, Option.filter_some]
    by_cases pieces : n.text = []
    · have empty : body.text = "" := by
        rw [← h.text, pieces]
        rfl
      rw [if_pos pieces, empty]
      rfl
    · rw [if_neg pieces]
      cases body.text.toList.all isAsciiBlank <;> rfl
  rw [text]

end Holds

def holding (r : Reader) (nodes : List OpenNode) : Reader := { r with nodes }

/-- The reader is directly inside the element `name`, whatever its open nodes are. -/
structure Inside (r : Reader) (around : Around) (name : Bytes) : Prop where
  ready : r.fault = none
  unfinished : r.finished = false
  between : r.inFraming = false
  deep : r.depth ≠ 0
  agree : Agree r.scopes around
  innermost : ∃ opened names, decodeName name = .ok opened ∧ r.names = opened :: names

theorem closing_of_open {r : Reader} {name : Bytes} {opened : String} {names : List String}
    (decoded : decodeName name = .ok opened) (innermost : r.names = opened :: names) :
    r.closing name =
      Reader.leave { r with names, scopes := r.scopes.tail, depth := r.depth - 1 } opened := by
  unfold Reader.closing
  rw [decoded]
  dsimp only
  unfold Reader.endTag
  rw [innermost]
  dsimp only
  rw [if_pos rfl]

theorem closing_of_other {r : Reader} {name : Bytes}
    (other : ∀ opened names, r.names = opened :: names → decodeName name ≠ .ok opened) :
    (r.closing name).toOption = none := by
  unfold Reader.closing
  cases decoded : decodeName name with
  | error e => rfl
  | ok closed =>
    dsimp only
    unfold Reader.endTag
    cases innermost : r.names with
    | nil => rfl
    | cons opened names =>
      have different : opened ≠ closed := by
        rintro rfl
        exact other opened names innermost decoded
      dsimp only
      rw [if_neg different]
      rfl

theorem closing_enter (r : Reader) (scope : Scope) {name : Bytes} {opened : String}
    (h : decodeName name = .ok opened) (nodes : List OpenNode) :
    (holding (r.enter opened (scope :: r.scopes)) nodes).apply (.closing name) =
      (holding r nodes).leave opened :=
  closing_of_open h rfl

/-- The reader after the tokens of an answer. An element that was closed leaves its end tag to be
read by the reader. -/
def Matches (r : Reader) (outer : List OpenNode) (name : Bytes) (node : Node)
    (ran : Reader × List Event) {ts : List Token} : Answer ts → Prop
  | .closed body rest _ =>
    ∃ n, Holds n node body ∧ ran = (holding r (n :: outer)).run (.closing name :: rest)
  | .unfinished => ran.1.fault = none ∧ ran.2 = []
  | .failed => ran.1.fault.isSome ∧ ran.2 = []

theorem matches_widen {r : Reader} {outer : List OpenNode} {name : Bytes} {node : Node}
    {ran : Reader × List Event} {ts us : List Token} (h : ts.length ≤ us.length)
    {answer : Answer ts} (m : Matches r outer name node ran answer) :
    Matches r outer name node ran (answer.widen h) := by
  cases answer <;> exact m

theorem matches_failed {r r' : Reader} {outer : List OpenNode} {name : Bytes} {node : Node}
    {t : Token} {ts us : List Token} (h : (r'.apply t).toOption = none) :
    Matches r outer name node (r'.run (t :: us)) (.failed : Answer ts) := by
  cases ht : r'.apply t with
  | error e =>
    rw [Reader.run_of_error ht]
    exact ⟨rfl, rfl⟩
  | ok taken =>
    rw [ht] at h
    cases h

theorem emptyTag_of_refused {r : Reader} {tag : Bytes} (h : (r.opening tag).toOption = none) :
    (r.emptyTag tag).toOption = none := by
  rw [Reader.emptyTag]
  cases ho : r.opening tag with
  | error e => rfl
  | ok taken =>
    rw [ho] at h
    cases h

theorem emptyTag_of_stuck {r r' : Reader} {tag : Bytes} {first : List Event}
    (h : r.opening tag = .ok (r', first)) (h' : (r'.closing (tagName tag)).toOption = none) :
    (r.emptyTag tag).toOption = none := by
  rw [Reader.emptyTag, h]
  dsimp only
  cases hc : r'.closing (tagName tag) with
  | error e => rfl
  | ok taken =>
    rw [hc] at h'
    cases h'

theorem emptyTag_of_ok {r r' r'' : Reader} {tag : Bytes} {first second : List Event}
    (h : r.opening tag = .ok (r', first)) (h' : r'.closing (tagName tag) = .ok (r'', second)) :
    r.emptyTag tag = .ok (r'', first ++ second) := by
  rw [Reader.emptyTag, h]
  dsimp only
  rw [h']

namespace Inside

variable {r : Reader} {around : Around} {name : Bytes}

theorem opening (inside : Inside r around name) {tag : Bytes} {e : Element}
    (h : element? around tag = some e) :
    ∃ opened scope, decodeName (tagName tag) = .ok opened
      ∧ Inside (r.enter opened (scope :: r.scopes)) (e.attrs :: around) (tagName tag)
      ∧ ∀ nodes, (holding r nodes).apply (.opening tag) =
        .ok (holding (r.enter opened (scope :: r.scopes)) ({ node := e.node } :: nodes), []) := by
  obtain ⟨t, begins⟩ := begins_of_element? inside.agree h
  refine ⟨t.name, t.scope, begins.name, ?_, fun nodes => ?_⟩
  · exact ⟨inside.ready, inside.unfinished, inside.between, Nat.succ_ne_zero _, begins.agree,
      t.name, r.names, begins.name, rfl⟩
  · have opens := Begins.opening (r := holding r nodes) begins inside.unfinished inside.between
    rw [Reader.apply, opens, if_neg (show (holding r nodes).depth ≠ 0 from inside.deep),
      begins.enterNode]
    rfl

theorem leave (inside : Inside r around name) (n parent : OpenNode) (outer : List OpenNode)
    (closed : String) :
    (holding r (n :: parent :: outer)).leave closed =
      .ok (holding r ({ parent with children := n.close :: parent.children } :: outer), []) := by
  rw [Reader.leave, holding]
  dsimp only
  rw [if_neg (by rw [inside.between]; simp), if_neg (fun h => inside.deep h.2)]
  rfl

theorem closing_other (inside : Inside r around name) {closed : Bytes} (other : closed ≠ name)
    (nodes : List OpenNode) : ((holding r nodes).closing closed).toOption = none := by
  obtain ⟨opened, names, decoded, innermost⟩ := inside.innermost
  apply closing_of_other
  intro opened' names' innermost' decoded'
  cases innermost.symm.trans innermost'
  exact other (decodeName_injective decoded' decoded)

end Inside

/-- The reader takes the content of an element as the reference reads it. -/
theorem run_content (around : Around) (name : Bytes) (body : Body) (ts : List Token) (r : Reader)
    (inside : Inside r around name) (n : OpenNode) (outer : List OpenNode) (node : Node)
    (holds : Holds n node body) :
    Matches r outer name node ((holding r (n :: outer)).run ts) (content around name body ts) := by
  -- Along the recursion of the reference: a call for a child is a run of the reader with the open
  -- node of the child on top, and the end tag of the child leads back to this element.
  fun_induction content around name body ts generalizing r n outer node with
  | case1 => exact ⟨inside.ready, rfl⟩
  | case2 around name body tag ts refused =>
    exact matches_failed (refused_of_element? (r := holding r (n :: outer)) inside.agree refused)
  | case3 around name body tag ts e begun inner rest shorter closed ihChild ihRest =>
    obtain ⟨opened, scope, decoded, child, opening⟩ := inside.opening begun
    have inner := ihChild _ child { node := e.node } (n :: outer) e.node (.fresh _)
    rw [closed] at inner
    obtain ⟨m, mholds, ran⟩ := inner
    have closes := closing_enter r scope decoded (m :: n :: outer)
    rw [inside.leave, mholds.close_eq] at closes
    rw [Reader.run_of_quiet (opening (n :: outer)), ran, Reader.run_of_quiet closes]
    exact matches_widen _ (ihRest r inside _ outer node (holds.addChild _))
  | case4 around name body tag ts e begun unfinished ih =>
    obtain ⟨opened, scope, -, child, opening⟩ := inside.opening begun
    have ran := ih _ child { node := e.node } (n :: outer) e.node (.fresh _)
    rw [unfinished] at ran
    rw [Reader.run_of_quiet (opening (n :: outer))]
    exact ran
  | case5 around name body tag ts e begun failed ih =>
    obtain ⟨opened, scope, -, child, opening⟩ := inside.opening begun
    have ran := ih _ child { node := e.node } (n :: outer) e.node (.fresh _)
    rw [failed] at ran
    rw [Reader.run_of_quiet (opening (n :: outer))]
    exact ran
  | case6 around name body tag ts refused =>
    exact matches_failed (emptyTag_of_refused (refused_of_element? inside.agree refused))
  | case7 around name body tag ts e begun ih =>
    obtain ⟨opened, scope, decoded, -, opening⟩ := inside.opening begun
    have closes := closing_enter r scope decoded ({ node := e.node } :: n :: outer)
    rw [inside.leave, (Holds.fresh e.node).close_eq] at closes
    have both : (holding r (n :: outer)).apply (.empty tag) = _ :=
      emptyTag_of_ok (opening (n :: outer)) closes
    rw [Reader.run_of_quiet both]
    exact matches_widen _ (ih r inside _ outer node (holds.addChild _))
  | case8 => exact ⟨n, holds, rfl⟩
  | case9 around name body closed ts other =>
    exact matches_failed (inside.closing_other other (n :: outer))
  | case10 around name body raw ts e bad =>
    apply matches_failed
    rw [Reader.apply, bad]
    rfl
  | case11 around name body raw ts text good ih =>
    rw [Reader.run_of_quiet (by rw [Reader.apply, good]; rfl)]
    exact matches_widen _ (ih r inside _ outer node (holds.addText text))
  | case12 around name body raw ts e bad =>
    apply matches_failed
    rw [Reader.apply, bad]
    rfl
  | case13 around name body raw ts text good ih =>
    rw [Reader.run_of_quiet (by rw [Reader.apply, good]; rfl)]
    exact matches_widen _ (ih r inside _ outer node (holds.addText text))
  | case14 around name body ts ih =>
    rw [Reader.run_of_quiet rfl]
    exact matches_widen _ (ih r inside n outer node holds)

end XmppStream.Reference
