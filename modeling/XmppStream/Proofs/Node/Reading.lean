import XmppStream.Proofs.Node.Plain
import XmppStream.Proofs.Reader.TopLevel

/-! A legible node that is written inside an element is read back as one child of that element. The
induction is on the node: what is written between its tags is read back by the same statement. -/

namespace XmppStream
open Markup Reference

namespace Node

def inner (n : Node) : String :=
  (match n.text with
    | none => ""
    | some text => Markup.escape text) ++ writeAll n.ns n.children

def endTag (n : Node) : String := "</" ++ n.name ++ ">"

theorem write_empty {n : Node} (noText : n.text = none) (noChildren : n.children = [])
    (around : Option String) : n.write around = n.tag around ++ "/>" := by
  obtain ⟨name, ns, prefixes, attrs, lang, text, children⟩ := n
  dsimp only at noText noChildren
  subst noText noChildren
  rw [write]

theorem write_full {n : Node} (full : ¬ (n.text = none ∧ n.children = [])) (around : Option String) :
    n.write around = n.tag around ++ ">" ++ (n.inner ++ n.endTag) := by
  obtain ⟨name, ns, prefixes, attrs, lang, text, children⟩ := n
  rw [write.eq_def]
  dsimp only [inner, endTag]
  split
  · exact absurd ⟨rfl, rfl⟩ full
  · simp only [String.append_assoc]
    rfl

theorem beginsTag_write (around : Option String) (n : Node) : BeginsTag (n.write around) := by
  have tag : BeginsTag (n.tag around) := by
    rw [tag_eq]
    exact beginsTag_lt _
  by_cases full : n.text = none ∧ n.children = []
  · rw [write_empty full.1 full.2]
    exact tag.append _
  · rw [write_full full, String.append_assoc]
    exact tag.append _

theorem beginsTag_endTag (n : Node) : BeginsTag n.endTag := by
  unfold endTag
  exact ((beginsTag_lt "/").append n.name).append ">"

theorem beginsTag_writeAll (around : String) (ns : List Node) {more : String}
    (begins : BeginsTag more) : BeginsTag (writeAll around ns ++ more) := by
  cases ns with
  | nil =>
    rw [writeAll, String.empty_append]
    exact begins
  | cons n ns =>
    rw [writeAll, String.append_assoc]
    exact (beginsTag_write (some around) n).append _

end Node

namespace Reference

/-- Inside an element the written node becomes the next child of that element. -/
def Returns (n : Node) : Prop :=
  ∀ around, ∃ ts, Lexes (n.write around) ts ∧ ∀ above, Surrounds above around →
    ∀ r name, Inside r above name → ∀ parent outer rest,
      (holding r (parent :: outer)).run (ts ++ rest) =
        (holding r ({ parent with children := n :: parent.children } :: outer)).run rest

theorem returns_all (ns : String) {children : List Node} (h : ∀ child ∈ children, Returns child) :
    ∃ ts, Lexes (Node.writeAll ns children) ts ∧ ∀ above, Surrounds above (some ns) →
      ∀ r name, Inside r above name → ∀ parent outer rest,
        (holding r (parent :: outer)).run (ts ++ rest) =
          (holding r ({ parent with children := children.reverse ++ parent.children } :: outer)).run
            rest := by
  -- Each child returns to the same parent, which has one child more.
  induction children with
  | nil =>
    refine ⟨[], ?_, fun above surrounds r name inside parent outer rest => rfl⟩
    rw [Node.writeAll]
    exact Lexes.empty
  | cons child children ih =>
    rw [List.forall_mem_cons] at h
    obtain ⟨ts, lexes, reads⟩ := h.1 (some ns)
    obtain ⟨us, lexes', reads'⟩ := ih h.2
    refine ⟨ts ++ us, ?_, ?_⟩
    · rw [Node.writeAll]
      exact lexes.append lexes'
    · intro above surrounds r name inside parent outer rest
      rw [List.append_assoc, reads above surrounds r name inside,
        reads' above surrounds r name inside, List.reverse_cons, List.append_assoc,
        List.singleton_append]

def filled (n : Node) : OpenNode where
  node := n.bare
  text := n.text.toList
  children := n.children.reverse

theorem close_filled {n : Node} (legible : Legible n) : (filled n).close = n := by
  have holds : Holds (filled n) n.bare { text := n.text.getD "", children := n.children } := by
    refine ⟨rfl, ?_, ?_⟩
    · unfold filled
      cases n.text with
      | none => rfl
      | some text =>
        rw [Option.toList_some, List.reverse_singleton, String.join_cons, String.join_nil,
          String.append_empty]
        rfl
    · unfold filled
      rw [List.reverse_reverse]
  have text : (if (n.text.getD "").toList.all isAsciiBlank then none else some (n.text.getD "")) =
      n.text := by
    cases ht : n.text with
    | none => rfl
    | some text => exact if_neg (legible.text text ht)
  rw [holds.close_eq, Body.finish, text]
  cases n
  rfl

/-- What is written from the start tag on fills the node and ends it. -/
theorem returns_inner {n : Node} (legible : Legible n) (h : ∀ child ∈ n.children, Returns child) :
    ∃ ts, Lexes (n.inner ++ n.endTag) (ts ++ [.closing (Utf8.encode n.name)])
      ∧ ∀ above, Surrounds above (some n.ns) → ∀ r name, Inside r above name → ∀ outer rest,
        (holding r ({ node := n.bare } :: outer)).run (ts ++ rest) =
          (holding r (filled n :: outer)).run rest := by
  -- The writer puts the text before the children, so one text token comes first if there is any.
  obtain ⟨ts, lexes, reads⟩ := returns_all n.ns h
  have ends : Lexes n.endTag [.closing (Utf8.encode n.name)] := Lexes.closing legible.name
  have whole := lexes.append ends
  cases ht : n.text with
  | none =>
    refine ⟨ts, ?_, ?_⟩
    · unfold Node.inner
      rw [ht]
      dsimp only
      rw [String.empty_append]
      exact whole
    · intro above surrounds r name inside outer rest
      rw [reads above surrounds r name inside]
      unfold filled
      rw [ht, List.append_nil]
      rfl
  | some text =>
    have nonempty : text ≠ "" := by
      rintro rfl
      exact legible.text "" ht rfl
    have begins := Node.beginsTag_writeAll n.ns n.children n.beginsTag_endTag
    refine ⟨.text (Utf8.encode (Markup.escape text)) :: ts, ?_, ?_⟩
    · unfold Node.inner
      rw [ht]
      dsimp only
      rw [String.append_assoc]
      exact Lexes.text nonempty begins whole
    · intro above surrounds r name inside outer rest
      have taken : (holding r ({ node := n.bare } :: outer)).apply
          (.text (Utf8.encode (Markup.escape text))) =
            .ok (holding r ({ node := n.bare, text := [text] } :: outer), []) := by
        rw [Reader.apply, decodeText_escape]
        rfl
      rw [List.cons_append, Reader.run_of_quiet taken, reads above surrounds r name inside]
      unfold filled
      rw [ht, List.append_nil]
      rfl

def startTag (around : Option String) (n : Node) : Bytes :=
  Utf8.encode (written n.name (n.declared around))

/-- The reader has opened the written node, and would close it with these events. -/
structure Turn (r r' : Reader) (above : Around) (around : Option String) (n : Node)
    (outer : List OpenNode) (events : List Event) (opened : String) (scope : Scope) : Prop where
  decoded : decodeName (tagName (startTag around n)) = .ok opened
  inside : Inside (r.enter opened (scope :: r.scopes)) (n.declared around :: above)
    (tagName (startTag around n))
  opens : (holding r outer).apply (.opening (startTag around n)) =
    .ok (holding (r.enter opened (scope :: r.scopes)) ({ node := n.bare } :: outer), [])
  ends : (holding r (filled n :: outer)).leave opened = .ok (r', events)

theorem run_written {n : Node} (legible : Legible n) (h : ∀ child ∈ n.children, Returns child)
    (around : Option String) :
    ∃ ts, Lexes (n.write around) ts ∧ ∀ above, InForce above around n.ns →
      ∀ r r' outer events opened scope, Turn r r' above around n outer events opened scope →
        ∀ rest, (holding r outer).run (ts ++ rest) = ((r'.run rest).1, events ++ (r'.run rest).2) := by
  have areKeys := legible.areKeys around
  have name : tagName (startTag around n) = Utf8.encode n.name :=
    tagName_written legible.name.solid (n.declared around)
  by_cases full : n.text = none ∧ n.children = []
  -- One tag opens the node and closes it.
  · refine ⟨[.empty (startTag around n)], ?_, ?_⟩
    · rw [Node.write_empty full.1 full.2, Node.tag_eq]
      exact Lexes.emptyTag legible.name areKeys
    · intro above inForce r r' outer events opened scope turn rest
      have bare : ({ node := n.bare } : OpenNode) = filled n := by
        unfold filled
        rw [full.1, full.2]
        rfl
      have closes := closing_enter r scope turn.decoded ({ node := n.bare } :: outer)
      rw [bare, turn.ends, ← bare] at closes
      have both : (holding r outer).apply (.empty _) = _ := emptyTag_of_ok turn.opens closes
      rw [List.singleton_append, Reader.run_of_ok both]
      rfl
  -- The start tag opens the node, what is inside fills it, and the end tag closes it.
  · obtain ⟨ts, lexes, reads⟩ := returns_inner legible h
    refine ⟨.opening (startTag around n) :: (ts ++ [.closing (Utf8.encode n.name)]), ?_, ?_⟩
    · rw [Node.write_full full, Node.tag_eq]
      exact (Lexes.opening legible.name areKeys).append lexes
    · intro above inForce r r' outer events opened scope turn rest
      have closes := closing_enter r scope turn.decoded (filled n :: outer)
      rw [turn.ends, name] at closes
      rw [List.cons_append, Reader.run_of_quiet turn.opens, List.append_assoc,
        reads _ (surrounds_declared legible inForce) _ _ turn.inside, List.singleton_append,
        Reader.run_of_ok closes]

theorem returns_of_legible {n : Node} (legible : n.All Legible) : Returns n := by
  induction legible with
  | @mk n here _ ih =>
    intro around
    obtain ⟨ts, lexes, reads⟩ := run_written here ih around
    refine ⟨ts, lexes, ?_⟩
    intro above surrounds r name inside parent outer rest
    obtain ⟨opened, scope, decoded, child, opens⟩ := inside.opening (element?_declared here (surrounds.inForce _))
    have ends := inside.leave (filled n) parent outer opened
    rw [close_filled here] at ends
    rw [reads above (surrounds.inForce _) r _ _ _ opened scope ⟨decoded, child, opens _, ends⟩, List.nil_append]

theorem run_stanza {s : Stanza} (legible : s.All Legible) (around : Option String) :
    ∃ ts, Lexes (s.write around) ts ∧ ∀ framing r place above, Top framing r place →
      InForce above around s.ns →
      place.enter? framing (startTag around s) =
        some (.stanza (s.declared around :: above) s.bare) →
      r.run ts = (r, [.stanza s]) := by
  obtain ⟨ts, lexes, reads⟩ :=
    run_written legible.here (fun child h => returns_of_legible (legible.children child h)) around
  refine ⟨ts, lexes, ?_⟩
  intro framing r place above top inForce enters
  obtain ⟨opened, scope, decoded, inside, opens, ends⟩ := top.enter_stanza enters
  have delivers := ends (filled s)
  rw [close_filled legible.here] at delivers
  have here : (holding r []).apply (.opening (startTag around s)) = _ :=
    top.holding_nil.symm ▸ opens
  have ran := reads above inForce r r [] _ opened scope ⟨decoded, inside, here, delivers⟩ []
  rw [List.append_nil, top.holding_nil] at ran
  exact ran

end Reference

end XmppStream
