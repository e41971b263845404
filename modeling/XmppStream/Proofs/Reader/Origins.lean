import Mathlib.Data.List.Forall2
import XmppStream.Proofs.Node.Plain
import XmppStream.Proofs.Reader.Sizes

/-! Where the nodes of a stanza come from. In document order each node of a stanza that comes out
belongs to one start tag of its element, and says what this tag and those around it say. -/

namespace XmppStream
open Markup

namespace Node

mutual
def preorder : Node → List Node
  | ⟨name, ns, prefixes, attrs, lang, text, children⟩ =>
    ⟨name, ns, prefixes, attrs, lang, text, children⟩ :: preorderAll children

def preorderAll : List Node → List Node
  | [] => []
  | n :: ns => n.preorder ++ preorderAll ns
end

theorem preorder_eq (n : Node) : n.preorder = n :: preorderAll n.children := by
  cases n
  rw [preorder]

theorem preorderAll_append (ns more : List Node) :
    preorderAll (ns ++ more) = preorderAll ns ++ preorderAll more := by
  induction ns with
  | nil => rw [preorderAll, List.nil_append, List.nil_append]
  | cons n ns ih => rw [List.cons_append, preorderAll, preorderAll, ih, List.append_assoc]

mutual
theorem all_of_preorder {p : Node → Prop} : (n : Node) → (∀ m ∈ n.preorder, p m) → n.All p
  | ⟨_, _, _, _, _, _, children⟩, h => by
    rw [preorder, List.forall_mem_cons] at h
    exact .mk h.1 (all_of_preorderAll children h.2)

theorem all_of_preorderAll {p : Node → Prop} :
    (ns : List Node) → (∀ m ∈ preorderAll ns, p m) → ∀ n ∈ ns, n.All p
  | [], _ => nofun
  | n :: ns, h => by
    rw [preorderAll, List.forall_mem_append] at h
    exact List.forall_mem_cons.2 ⟨all_of_preorder n h.1, all_of_preorderAll ns h.2⟩
end

end Node

namespace Reader
open Reference

def after (around : List Bytes) : Token → List Bytes
  | .opening tag => tag :: around
  | .closing _ => around.tail
  | .empty _ | .text _ | .cdata _ | .ignored => around

def openTags (around : List Bytes) (xs : List Lexeme) : List Bytes :=
  xs.foldl (fun around x => after around x.token) around

/-- The content of a start tag, and those of the elements around it. -/
structure Start where
  tag : Bytes
  around : List Bytes
deriving DecidableEq, Repr

def startOf (around : List Bytes) : Token → List Start
  | .opening tag | .empty tag => [⟨tag, around⟩]
  | .closing _ | .text _ | .cdata _ | .ignored => []

def starts (around : List Bytes) : List Lexeme → List Start
  | [] => []
  | x :: xs => startOf around x.token ++ starts (after around x.token) xs

def attributesOf (tags : List Bytes) : Around := tags.map fun tag => (attributes? tag).getD []

/-- A node says what its start tag says: its keys declare nothing, and the prefixes of its keys, but
the reserved one, are bound as the nearest declaration in force has it. -/
structure FromTag (n : Node) (start : Start) : Prop where
  name : ∃ name, decodeName (tagName start.tag) = .ok name ∧ n.name = localPart name
  attrs : ∃ attrs, attributes? start.tag = some attrs ∧ n.attrs = plain attrs
    ∧ n.lang = attrs.get? "xml:lang"
  distinct : n.attrs.keys.Nodup
  undeclaring : ∀ key ∈ n.attrs.keys,
    key ≠ "xmlns" ∧ ¬ "xmlns:".toList <+: key.toList ∧ key ≠ "xml:lang"
  prefixes : n.prefixes.keys = labels n.attrs
  prefixes_distinct : n.prefixes.keys.Nodup
  nearest : ∀ label ns, (label, ns) ∈ n.prefixes →
    (attributesOf (start.tag :: start.around)).nearest ("xmlns:" ++ label) = some ns
  text : ∀ text, n.text = some text → ∃ c ∈ text.toList, ¬ isAsciiBlank c

theorem openTags_concat (around : List Bytes) (xs : List Lexeme) (x : Lexeme) :
    openTags around (xs ++ [x]) = after (openTags around xs) x.token := List.foldl_append

theorem openTags_append (around : List Bytes) (xs ys : List Lexeme) :
    openTags around (xs ++ ys) = openTags (openTags around xs) ys := List.foldl_append

theorem starts_concat (around : List Bytes) (xs : List Lexeme) (x : Lexeme) :
    starts around (xs ++ [x]) = starts around xs ++ startOf (openTags around xs) x.token := by
  induction xs generalizing around with
  | nil => exact List.append_nil _
  | cons y xs ih => rw [List.cons_append, starts, ih, starts, List.append_assoc]; rfl

theorem mem_keys_plain {attrs : Table} {key : String} (h : key ∈ (plain attrs).keys) :
    key ≠ "xmlns" ∧ ¬ "xmlns:".toList <+: key.toList ∧ key ≠ "xml:lang" := by
  obtain ⟨entry, mem, rfl⟩ := List.mem_map.1 h
  have own := (List.mem_filter.1 mem).2
  simpa [isDeclaration, and_assoc, ← List.isPrefixOf_iff_prefix] using own

theorem keys_filterMap {ls : List String} {f : String → Option String}
    (h : ∀ label ∈ ls, (f label).isSome) :
    Table.keys (ls.filterMap fun label => (f label).map fun ns => (label, ns)) = ls := by
  induction ls with
  | nil => rfl
  | cons label ls ih =>
    rw [List.forall_mem_cons] at h
    obtain ⟨ns, found⟩ := Option.isSome_iff_exists.1 h.1
    rw [List.filterMap_cons_some (by rw [found]; rfl), Table.keys_cons, ih h.2]

/-- The node that a start tag begins is one of that tag. -/
theorem fromTag_of_element? {tags : List Bytes} {tag : Bytes} {e : Element}
    (h : element? (attributesOf tags) tag = some e) :
    attributes? tag = some e.attrs ∧ FromTag e.node ⟨tag, tags⟩ := by
  rw [element?] at h
  split at h
  case h_2 => cases h
  next name attrs decoded read =>
  dsimp only at h
  split at h
  · cases h
  split_ifs at h with declared
  cases h
  rw [List.all_eq_true] at declared
  have inForce : attributesOf (tag :: tags) = attrs :: attributesOf tags := by
    rw [attributesOf, List.map_cons, read]
    rfl
  refine ⟨read, ⟨name, decoded, rfl⟩, ⟨attrs, read, rfl, rfl⟩,
    Table.nodup_keys_filter _ (attributes?_distinct read), fun key => mem_keys_plain,
    keys_filterMap declared, ?_, ?_, ?_⟩
  · rw [keys_filterMap declared]
    exact nodup_eraseDups _
  · intro label ns mem
    obtain ⟨used, mem, bound⟩ := List.mem_filterMap.1 mem
    obtain ⟨ns', bound, same⟩ := Option.map_eq_some_iff.1 bound
    cases same
    rw [Around.resolve?, if_neg (mem_labels mem).1] at bound
    rwa [inForce]
  · intro _ ended
    cases ended

theorem FromTag.close {n : OpenNode} {start : Start} (h : FromTag n.node start) :
    FromTag n.close start := by
  refine { h with text := fun text ended => ?_ }
  have ended : (if n.text = [] then none else substance (some (String.join n.text.reverse))) =
      some text := ended
  split_ifs at ended
  rw [substance, Option.filter_eq_some_iff] at ended
  simpa using ended.2

inductive Nested : List Scope → List Bytes → Prop where
  | nil : Nested [] []
  | cons {scope : Scope} {scopes : List Scope} {tag : Bytes} {tags : List Bytes}
      (outer : Nested scopes tags) (agree : Agree (scope :: scopes) (attributesOf (tag :: tags))) :
      Nested (scope :: scopes) (tag :: tags)

theorem Nested.agree {scopes : List Scope} {tags : List Bytes} (h : Nested scopes tags) :
    Agree scopes (attributesOf tags) := by
  cases h with
  | nil => exact .nil
  | cons outer agree => exact agree

theorem Nested.tail {scopes : List Scope} {tags : List Bytes} (h : Nested scopes tags) :
    Nested scopes.tail tags.tail := by
  cases h with
  | nil => exact .nil
  | cons outer agree => exact outer

def unfinished : List OpenNode → List Node
  | [] => []
  | n :: outer => unfinished outer ++ n.node :: Node.preorderAll n.children.reverse

theorem forall₂_replace {as bs : List Node} {a b : Node} {begun : List Start}
    (h : List.Forall₂ FromTag (as ++ a :: bs) begun) (same : ∀ start, FromTag a start → FromTag b start) :
    List.Forall₂ FromTag (as ++ b :: bs) begun := by
  induction as generalizing begun with
  | nil =>
    cases h with
    | cons first rest => exact .cons (same _ first) rest
  | cons n as ih =>
    cases h with
    | cons first rest => exact .cons first (ih rest)

/-- What a token leaves of a reader in which `tags` are open, and what it emits: the nodes there are
those of `begun`. -/
structure Grows (tags : List Bytes) (begun : List Start) (r : Reader) (events : List Event) :
    Prop where
  nested : Nested r.scopes tags
  nodes : r.nodes ≠ [] → List.Forall₂ FromTag (unfinished r.nodes) begun
  stanza : ∀ s, .stanza s ∈ events → List.Forall₂ FromTag s.preorder begun

theorem enterTop_cases {r r' : Reader} {t : StartTag} {ns : String} {prefixes : Table}
    {events : List Event} (h : r.enterTop t ns prefixes = .ok (r', events)) :
    r' = r.enterNode t ns prefixes ∧ events = []
      ∨ r'.nodes = r.nodes ∧ r'.scopes = t.scope :: r.scopes ∧ ∀ s, .stanza s ∉ events := by
  unfold enterTop at h
  dsimp only at h
  split at h
  · cases h
    exact .inl ⟨rfl, rfl⟩
  · split_ifs at h
    cases h
    exact .inr ⟨rfl, rfl, by simp⟩
  · split_ifs at h
    · cases h
      exact .inr ⟨rfl, rfl, by simp⟩
    · cases h
      exact .inr ⟨rfl, rfl, by simp⟩
    · cases h
      exact .inl ⟨rfl, rfl⟩

namespace Grows

variable {l : Level} {tags : List Bytes} {begun : List Start} {r r' : Reader}
  {earlier events : List Event}

theorem opening {tag : Bytes} (h : Grows tags begun r earlier) (stands : Stands l r)
    (between : r.nodes = [] → begun = []) (opens : r.opening tag = .ok (r', events)) :
    Grows (tag :: tags) (begun ++ [⟨tag, tags⟩]) r' events := by
  have agree := h.nested.agree
  obtain ⟨unfinished, outside, -⟩ := opens_of_opening opens
  cases found : element? (attributesOf tags) tag with
  | none =>
    have refused := refused_of_element? agree found
    rw [opens] at refused
    cases refused
  | some e =>
    obtain ⟨t, begins⟩ := begins_of_element? agree found
    obtain ⟨read, fromTag⟩ := fromTag_of_element? found
    have inForce : attributesOf (tag :: tags) = e.attrs :: attributesOf tags := by
      rw [attributesOf, List.map_cons, read]
      rfl
    have nested : Nested (t.scope :: r.scopes) (tag :: tags) :=
      .cons h.nested (by rw [inForce]; exact begins.agree)
    have inner : List.Forall₂ FromTag (Reader.unfinished r.nodes) begun := by
      by_cases none : r.nodes = []
      · rw [none, between none]
        exact .nil
      · exact h.nodes none
    have grown : Grows (tag :: tags) (begun ++ [⟨tag, tags⟩])
        (r.enterNode t e.node.ns e.node.prefixes) [] := by
      rw [begins.enterNode]
      exact ⟨nested, fun _ => List.rel_append inner (.cons fromTag .nil), nofun⟩
    rw [begins.opening unfinished outside] at opens
    -- At the top level the framing may take the element; otherwise it is a node of the stanza.
    split_ifs at opens with top
    · rcases enterTop_cases opens with ⟨rfl, rfl⟩ | ⟨nodes, scopes, others⟩
      · exact grown
      · refine ⟨scopes ▸ nested, fun inhabited => ?_, fun s mem => absurd mem (others s)⟩
        rw [nodes, stands.nodes_eq_nil.2 (stands.outermost top).2.1] at inhabited
        exact absurd rfl inhabited
    · cases opens
      exact grown

theorem closing {closed : Bytes} (h : Grows tags begun r earlier)
    (closes : r.closing closed = .ok (r', events)) : Grows tags.tail begun r' events := by
  obtain ⟨name, names, -, -, leaves⟩ := leaves_of_closing closes
  have nested := h.nested.tail
  have nodes := h.nodes
  cases leaves with
  | close inside kind => exact ⟨nested, nodes, by simp⟩
  | frame inside kind => exact ⟨nested, nodes, by simp⟩
  | wrapper between stream top => exact ⟨nested, nodes, by simp⟩
  | @stanza _ _ n last =>
    have last : r.nodes = [n] := last
    rw [last] at nodes
    refine ⟨nested, fun inhabited => absurd rfl inhabited, fun s mem => ?_⟩
    obtain rfl : s = n.close := by simpa using mem
    cases nodes (by simp) with
    | cons first rest =>
      rw [Node.preorder_eq]
      exact .cons first.close rest
  | @child _ _ n parent outer inner =>
    have inner : r.nodes = n :: parent :: outer := inner
    rw [inner] at nodes
    refine ⟨nested, fun _ => ?_, nofun⟩
    have whole := forall₂_replace (nodes (by simp)) fun _ => FromTag.close
    -- The child goes behind the nodes that its parent had so far.
    have same : unfinished ({ parent with children := n.close :: parent.children } :: outer) =
        unfinished (parent :: outer) ++ n.close :: Node.preorderAll n.children.reverse := by
      simp only [unfinished, List.reverse_cons, Node.preorderAll_append, Node.preorderAll,
        Node.preorder_eq, List.append_nil, List.append_assoc, List.cons_append]
      rfl
    rwa [same]

theorem silent (h : Grows tags begun r earlier) (quiet : events = []) : Grows tags begun r events := by
  rw [quiet]
  exact ⟨h.nested, h.nodes, nofun⟩

theorem characters {text : String} (h : Grows tags begun r earlier)
    (taken : r.characters text = .ok (r', events)) : Grows tags begun r' events := by
  obtain ⟨quiet, ⟨n, outer, inner, rfl⟩ | rfl⟩ := characters_cases taken
  · have nodes := h.nodes
    rw [inner] at nodes
    exact ⟨h.nested, fun _ => nodes (by simp), by simp [quiet]⟩
  · exact h.silent quiet

theorem apply {t : Token} (h : Grows tags begun r earlier) (stands : Stands l r)
    (between : r.nodes = [] → begun = []) (taken : r.apply t = .ok (r', events)) :
    Grows (after tags t) (begun ++ startOf tags t) r' events := by
  cases t with
  | opening tag => exact h.opening stands between taken
  | closing name =>
    rw [startOf, List.append_nil]
    exact h.closing taken
  | empty tag =>
    obtain ⟨inside, first, second, opens, closes, rfl⟩ := emptyTag_cases taken
    have opened := h.opening stands between opens
    have closed := opened.closing closes
    exact ⟨closed.nested, closed.nodes, fun s mem =>
      (List.mem_append.1 mem).elim (opened.stanza s) (closed.stanza s)⟩
  | text raw =>
    rw [startOf, List.append_nil]
    rw [Reader.apply] at taken
    split at taken
    · cases taken
    · exact h.characters taken
  | cdata raw =>
    rw [startOf, List.append_nil]
    rw [Reader.apply] at taken
    split at taken
    · cases taken
    · exact h.characters taken
  | ignored =>
    cases taken
    rw [startOf, List.append_nil]
    exact h.silent rfl

theorem charge (h : Grows tags begun r events) (size : Nat) :
    Grows tags begun (r.charge size) events := by
  unfold Reader.charge
  dsimp only
  split_ifs <;> exact ⟨h.nested, h.nodes, h.stanza⟩

end Grows

namespace Underway

variable {framing : Framing} {limit : Nat} {before opened : List Lexeme} {r : Reader} {x : Lexeme}
  {tags : List Bytes} {begun : List Start}

theorem opened_eq_nil (h : Underway framing limit before opened r) (closed : r.nodes = []) :
    opened = [] := h.closed.2 (h.stands.nodes_eq_nil.1 closed)

theorem nodes_eq_nil (h : Underway framing limit before [] r) : r.nodes = [] :=
  h.stands.nodes_eq_nil.2 (h.closed.1 rfl)

theorem grows (h : Underway framing limit before opened r)
    (grown : Grows tags (starts (openTags [] before) opened) r []) (here : tags = openTags [] (before ++ opened))
    (taken : (r.step x).1.fault = none ∨ (r.step x).2 ≠ []) :
    Grows (openTags [] (before ++ (opened ++ [x]))) (starts (openTags [] before) (opened ++ [x]))
      (r.step x).1 (r.step x).2 := by
  have between : r.nodes = [] → starts (openTags [] before) opened = [] := by
    intro closed
    rw [h.opened_eq_nil closed, starts]
  rcases step_cases h.ready x with ⟨⟨e, fault⟩, silent⟩ | ⟨r', events, applied, step⟩
  · rcases taken with fine | emits
    · rw [fault] at fine
      cases fine
    · exact absurd silent emits
  · rw [step, starts_concat, ← openTags_append, ← List.append_assoc, openTags_concat, ← here]
    exact (grown.apply h.stands between applied).charge _

end Underway

/-- Along a run the nodes that are open are those of the start tags of the stanza that is open. -/
theorem grows_steps (framing : Framing) (limit : Nat) {xs : List Lexeme}
    (fine : ((fresh framing limit).steps xs).1.fault = none) :
    ∃ before opened, xs = before ++ opened
      ∧ ((fresh framing limit).steps xs).2 = ((fresh framing limit).steps before).2
      ∧ Underway framing limit before opened ((fresh framing limit).steps xs).1
      ∧ Grows (openTags [] (before ++ opened)) (starts (openTags [] before) opened)
        ((fresh framing limit).steps xs).1 [] := by
  -- From the last token back; which tags are open goes with the stanza that is open.
  induction xs using List.reverseRecOn with
  | nil => exact ⟨[], [], rfl, rfl, underway_fresh framing limit, .nil, fun _ => .nil, nofun⟩
  | append_singleton xs x ih =>
    rw [steps_concat] at fine ⊢
    obtain ⟨before, opened, rfl, quiet, underway, grown⟩ := ih (@fault_of_steps _ [x] fine)
    have grown := underway.grows grown rfl (.inl fine)
    rcases underway.next fine with next | ⟨silent, next⟩
    · refine ⟨before ++ (opened ++ [x]), [], by simp, ?_, next, ?_⟩
      · rw [← List.append_assoc, steps_concat]
      · rw [List.append_nil]
        exact ⟨grown.nested, fun inhabited => absurd next.nodes_eq_nil inhabited, nofun⟩
    · exact ⟨before, opened ++ [x], by simp, by rw [quiet, silent, List.append_nil], next,
        silent ▸ grown⟩

theorem grown_of_event {framing : Framing} {limit : Nat} {xs : List Lexeme} {i : Nat} {s : Stanza}
    (event : ((fresh framing limit).steps xs).2[i]? = some (.stanza s)) :
    ∃ before element after, xs = before ++ (element ++ after)
      ∧ ((fresh framing limit).steps before).2.length = i
      ∧ Delivers framing limit before element s
      ∧ List.Forall₂ FromTag s.preorder (starts (openTags [] before) element) := by
  obtain ⟨xs, x, after, j, rfl, fine, event, place⟩ := step_of_event event
  obtain ⟨before, opened, rfl, quiet, underway, grown⟩ := grows_steps framing limit fine
  obtain ⟨rfl, delivers⟩ := Underway.delivers framing limit underway quiet event
  have emits : (((fresh framing limit).steps (before ++ opened)).1.step x).2 ≠ [] := by
    intro none
    rw [none] at event
    cases event
  refine ⟨before, opened ++ [x], after, by simp, by rw [place, quiet, Nat.add_zero], delivers, ?_⟩
  exact (underway.grows grown rfl (.inr emits)).stanza s (List.mem_of_getElem? event)

/-- Each node of a stanza that comes out, whatever the framing and however the input is cut, is that
of one start tag of the element it was read from. -/
theorem nodes_from_tags (framing : Framing) (limit : Nat) (pieces : List Bytes) (i : Nat) (s : Stanza)
    (event : ((fresh framing limit).pushAll pieces).2[i]? = some (.stanza s)) :
    ∃ before element after : List Slice,
      (fresh framing limit).slicesAll pieces = before ++ (element ++ after)
      ∧ ((fresh framing limit).steps (before.map Slice.lexeme)).2.length = i
      ∧ Delivers framing limit (before.map Slice.lexeme) (element.map Slice.lexeme) s
      ∧ List.Forall₂ FromTag s.preorder
        (starts (openTags [] (before.map Slice.lexeme)) (element.map Slice.lexeme)) := by
  rw [events_pushAll rfl] at event
  obtain ⟨xs, ys, zs, split, place, delivers, nodes⟩ := grown_of_event event
  obtain ⟨before, rest, slices, rfl, split'⟩ := List.map_eq_append_iff.1 split
  obtain ⟨element, after, rfl, rfl, rfl⟩ := List.map_eq_append_iff.1 split'
  exact ⟨before, element, after, slices, place, delivers, nodes⟩

def shadowingPieces : List Bytes :=
  [Utf8.encode "<s:stream xmlns:s='http://etherx.jabber.org/streams' xmlns:p='u'><a p:k='1'>\nx",
    Utf8.encode "y<b xmlns:p='v' p:k='2' xml:lang='en'> </b></a>"]

def shadowingStanza : Stanza :=
  { name := "a", prefixes := [("p", "u")], attrs := [("p:k", "1")], text := some "\nxy", children := [
    { name := "b", prefixes := [("p", "v")], attrs := [("p:k", "2")], lang := some "en" }] }

theorem nodes_from_tags_shadowingPieces :
    ((fresh .stream 100).pushAll shadowingPieces).2[1]? = some (.stanza shadowingStanza)
      ∧ ∃ before element after : List Slice,
        (fresh .stream 100).slicesAll shadowingPieces = before ++ (element ++ after)
        ∧ List.Forall₂ FromTag shadowingStanza.preorder
          (starts (openTags [] (before.map Slice.lexeme)) (element.map Slice.lexeme)) := by
  have event : ((fresh .stream 100).pushAll shadowingPieces).2[1]? =
      some (.stanza shadowingStanza) := by decide +kernel
  obtain ⟨before, element, after, slices, -, -, nodes⟩ :=
    nodes_from_tags .stream 100 shadowingPieces 1 shadowingStanza event
  exact ⟨event, before, element, after, slices, nodes⟩

end Reader
end XmppStream
