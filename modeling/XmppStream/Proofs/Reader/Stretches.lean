import XmppStream.Proofs.Reader.Charging
import XmppStream.Proofs.Reader.Tag

/-! The stretches of a stream: each stanza from its start tag to its end tag, and each token outside
of stanzas. Tags alone say where they end, and the stacks of the reader follow them. -/

namespace XmppStream.Reader
open Markup Reference

/-- How many elements are open: those around the stanzas, and those of a stanza. -/
structure Level where
  around : Nat := 0
  inside : Nat := 0
deriving DecidableEq, Repr

namespace Level

def inStanza (framing : Framing) (l : Level) (tag : Bytes) : Bool :=
  l.inside ≠ 0 || match framing with
    | .standalone => true
    | .stream => l.around ≠ 0
    | .webSocket => l.around = 0 && (element? [] tag).any (·.node.ns ≠ Namespace.framing)

def enter (framing : Framing) (l : Level) (tag : Bytes) : Level :=
  if l.inStanza framing tag then { l with inside := l.inside + 1 }
  else { l with around := l.around + 1 }

def leave (l : Level) : Level :=
  if l.inside = 0 then { l with around := l.around - 1 } else { l with inside := l.inside - 1 }

def move (framing : Framing) (l : Level) : Token → Level
  | .opening tag => l.enter framing tag
  | .closing _ => l.leave
  | .empty _ | .text _ | .cdata _ | .ignored => l

def moves (framing : Framing) (l : Level) (xs : List Lexeme) : Level :=
  xs.foldl (fun l x => l.move framing x.token) l

theorem moves_append (framing : Framing) (l : Level) (xs ys : List Lexeme) :
    l.moves framing (xs ++ ys) = (l.moves framing xs).moves framing ys := List.foldl_append

theorem leave_enter (framing : Framing) (l : Level) (tag : Bytes) : (l.enter framing tag).leave = l := by
  unfold enter leave inStanza
  split_ifs with stanza inner inner
  · cases inner
  · rfl
  · rfl
  · simp [inner] at stanza

end Level

def joinFirst (x : Lexeme) : List (List Lexeme) → List (List Lexeme)
  | [] => [[x]]
  | first :: rest => (x :: first) :: rest

/-- Cuts tokens after each one that leaves no stanza open. -/
def stretches (framing : Framing) (l : Level) : List Lexeme → List (List Lexeme)
  | [] => []
  | x :: xs =>
    let l := l.move framing x.token
    if l.inside = 0 then [x] :: stretches framing l xs else joinFirst x (stretches framing l xs)

theorem flatten_stretches (framing : Framing) (l : Level) (xs : List Lexeme) :
    (stretches framing l xs).flatten = xs := by
  induction xs generalizing l with
  | nil => rfl
  | cons x xs ih =>
    have rest := ih (l.move framing x.token)
    rw [stretches]
    split_ifs
    · rw [List.flatten_cons, rest, List.singleton_append]
    · generalize stretches framing (l.move framing x.token) xs = cut at rest ⊢
      cases cut with
      | nil => exact congrArg (x :: ·) rest
      | cons first more => exact congrArg (x :: ·) rest

structure Stands (l : Level) (r : Reader) : Prop where
  nodes : r.nodes.length = l.inside
  depth : r.depth = l.around + l.inside
  scopes : r.scopes.length = r.depth
  inFraming : r.inFraming = true ↔ r.framing = .webSocket ∧ l.around ≠ 0
  alone : r.inFraming = true → l = { around := 1 }
  wrapped : r.framing = .stream → l.inside ≠ 0 → l.around ≠ 0

namespace Stands

variable {l : Level} {r r' : Reader} {events : List Event}

theorem fresh (framing : Framing) (limit : Nat) : Stands {} (fresh framing limit) :=
  ⟨rfl, rfl, rfl, by simp [Reader.fresh], nofun, fun _ h => absurd rfl h⟩

theorem keeping (stands : Stands l r) (left : Bytes) : Stands l (r.keeping left) :=
  ⟨stands.nodes, stands.depth, stands.scopes, stands.inFraming, stands.alone, stands.wrapped⟩

theorem charging (stands : Stands l r) (charged : Nat) : Stands l (r.charging charged) :=
  ⟨stands.nodes, stands.depth, stands.scopes, stands.inFraming, stands.alone, stands.wrapped⟩

theorem nodes_eq_nil (stands : Stands l r) : r.nodes = [] ↔ l.inside = 0 := by
  rw [← stands.nodes, List.length_eq_zero_iff]

theorem outermost (stands : Stands l r) (top : r.depth = 0) :
    l.around = 0 ∧ l.inside = 0 ∧ r.scopes = [] := by
  have depth := stands.depth
  have scopes := stands.scopes
  rw [top] at scopes
  exact ⟨by omega, by omega, List.length_eq_zero_iff.1 scopes⟩

theorem inFraming_of_opening {tag : Bytes} (stands : Stands l r) (top : r.depth = 0)
    (webSocket : r.framing = .webSocket) (h : r.opening tag = .ok (r', events)) :
    ∃ e, element? [] tag = some e ∧ (r'.inFraming = true ↔ e.node.ns = Namespace.framing) := by
  obtain ⟨unfinished, between, -⟩ := opens_of_opening h
  have agree : Agree r.scopes [] := by
    rw [(stands.outermost top).2.2]
    exact .nil
  cases he : element? [] tag with
  | none =>
    have refused := refused_of_element? agree he
    rw [h] at refused
    cases refused
  | some e =>
    refine ⟨e, rfl, ?_⟩
    obtain ⟨t, begins⟩ := begins_of_element? agree he
    rw [begins.opening unfinished between, if_pos top, enterTop, webSocket] at h
    dsimp only at h
    split_ifs at h with framing <;> cases h
    · simp [framing]
    · simp [framing]
    · simp [framing, enterNode, enter, between]

theorem around_eq_zero (stands : Stands l r) (webSocket : r.framing = .webSocket)
    (between : r.inFraming = false) : l.around = 0 := by
  by_contra around
  rw [stands.inFraming.2 ⟨webSocket, around⟩] at between
  cases between

theorem inStanza_of_node {tag : Bytes} {t : StartTag} {ns : String} {prefixes : Table}
    (stands : Stands l r) (h : r.opening tag = .ok (r.enterNode t ns prefixes, events))
    (between : r.inFraming = false) (stanza : r.depth = 0 → r.framing ≠ .stream) :
    l.inStanza r.framing tag := by
  have depth := stands.depth
  unfold Level.inStanza
  by_cases inner : l.inside = 0
  · cases framed : r.framing with
    | standalone => simp
    | stream =>
      have around : l.around ≠ 0 := fun top => stanza (by omega) framed
      simp [around]
    | webSocket =>
      have around := stands.around_eq_zero framed between
      obtain ⟨e, element, frames⟩ := stands.inFraming_of_opening (by omega) framed h
      have other : e.node.ns ≠ Namespace.framing := by
        intro framing
        have inside : r.inFraming = true := frames.2 framing
        rw [between] at inside
        cases inside
      simp [around, element, other]
  · simp [inner]

theorem opening {tag : Bytes} (stands : Stands l r) (h : r.opening tag = .ok (r', events)) :
    Stands (l.enter r.framing tag) r' := by
  obtain ⟨-, between, name, t, -, -, opens⟩ := opens_of_opening h
  have nodes := stands.nodes
  have depth := stands.depth
  have scopes := congrArg (· + 1) stands.scopes
  have noFrame : r.inFraming ≠ true := by simp [between]
  -- A start tag opens a node of a stanza, the wrapper, or an element that frames the stream.
  cases opens with
  | node ns prefixes stanza =>
    rw [Level.enter, if_pos (stands.inStanza_of_node h between stanza)]
    refine ⟨congrArg (· + 1) nodes, ?_, scopes, stands.inFraming, (absurd · noFrame), ?_⟩
    · show r.depth + 1 = l.around + (l.inside + 1)
      omega
    · intro stream _ around
      have outer : l.inside = 0 := by
        by_contra inner
        exact stands.wrapped stream inner around
      exact stanza (by rw [depth, outer]; exact around) stream
  | wrapper top stream =>
    obtain ⟨around, inside, -⟩ := stands.outermost top
    rw [Level.enter, if_neg (by simp [Level.inStanza, stream, around, inside])]
    refine ⟨nodes, ?_, scopes, ?_, (absurd · noFrame), fun _ _ => Nat.succ_ne_zero _⟩
    · show r.depth + 1 = l.around + 1 + l.inside
      omega
    · simp [enter, between, stream]
  | frame top webSocket kind =>
    obtain ⟨around, inside, -⟩ := stands.outermost top
    obtain ⟨e, element, frames⟩ := stands.inFraming_of_opening top webSocket h
    have framing : e.node.ns = Namespace.framing := frames.1 rfl
    rw [Level.enter, if_neg (by simp [Level.inStanza, webSocket, element, framing, inside])]
    refine ⟨nodes, ?_, scopes, ?_, ?_, fun _ _ => Nat.succ_ne_zero _⟩
    · show r.depth + 1 = l.around + 1 + l.inside
      omega
    · simp [enter, webSocket]
    · simp [around, inside]

theorem leaveNode (stands : Stands l r) (names : List String) {nodes : List OpenNode}
    (between : r.inFraming = false) (shorter : r.nodes.length = nodes.length + 1) :
    Stands l.leave { r with names, scopes := r.scopes.tail, depth := r.depth - 1, nodes } := by
  have height := stands.nodes
  have depth := stands.depth
  have inner : l.inside ≠ 0 := by omega
  have noFrame : r.inFraming ≠ true := by simp [between]
  rw [Level.leave, if_neg inner]
  refine ⟨?_, ?_, ?_, stands.inFraming, (absurd · noFrame), fun stream _ => stands.wrapped stream inner⟩
  · show nodes.length = l.inside - 1
    omega
  · show r.depth - 1 = l.around + (l.inside - 1)
    omega
  · rw [List.length_tail, stands.scopes]

theorem inside_of_wrapper (stands : Stands l r) (stream : r.framing = .stream)
    (last : r.depth - 1 = 0) : l.inside = 0 := by
  have depth := stands.depth
  by_contra inner
  have around := stands.wrapped stream inner
  omega

theorem closing {name : Bytes} (stands : Stands l r) (h : r.closing name = .ok (r', events)) :
    Stands l.leave r' := by
  obtain ⟨name, names, -, -, leaves⟩ := leaves_of_closing h
  have nodes := stands.nodes
  have depth := stands.depth
  have scopes : r.scopes.tail.length = r.depth - 1 := by rw [List.length_tail, stands.scopes]
  unfold Level.leave
  cases leaves with
  | close inside kind =>
    obtain rfl := stands.alone inside
    exact ⟨nodes, congrArg (· - 1) depth, scopes, by simp, nofun, fun _ inner => absurd rfl inner⟩
  | frame inside kind =>
    obtain rfl := stands.alone inside
    exact ⟨nodes, congrArg (· - 1) depth, scopes, by simp, nofun, fun _ inner => absurd rfl inner⟩
  | wrapper between stream top =>
    have between : r.inFraming = false := between
    have stream : r.framing = .stream := stream
    have outer := stands.inside_of_wrapper stream top
    rw [if_pos outer]
    refine ⟨nodes, ?_, scopes, ?_, ?_, fun _ inner => absurd outer inner⟩
    · show r.depth - 1 = l.around - 1 + l.inside
      omega
    · simp [between, stream]
    · simp [between]
  | stanza between deep last =>
    have last : r.nodes = [_] := last
    exact stands.leaveNode names between (by rw [last]; rfl)
  | child between deep inner =>
    have inner : r.nodes = _ :: _ :: _ := inner
    exact stands.leaveNode names between (by rw [inner]; rfl)

theorem characters {text : String} (stands : Stands l r)
    (h : r.characters text = .ok (r', events)) : Stands l r' := by
  obtain ⟨-, ⟨n, nodes, inner, rfl⟩ | rfl⟩ := characters_cases h
  · have height := stands.nodes
    rw [inner] at height
    exact { stands with nodes := height }
  · exact stands

theorem apply {t : Token} (stands : Stands l r) (h : r.apply t = .ok (r', events)) :
    Stands (l.move r.framing t) r' := by
  cases t with
  | opening tag => exact stands.opening h
  | closing name => exact stands.closing h
  | empty tag =>
    obtain ⟨inside, first, second, opens, closes, -⟩ := emptyTag_cases h
    have left := (stands.opening opens).closing closes
    rwa [Level.leave_enter] at left
  | text raw =>
    rw [Reader.apply] at h
    split at h
    · cases h
    · exact stands.characters h
  | cdata raw =>
    rw [Reader.apply] at h
    split at h
    · cases h
    · exact stands.characters h
  | ignored =>
    cases h
    exact stands

end Stands

end XmppStream.Reader
