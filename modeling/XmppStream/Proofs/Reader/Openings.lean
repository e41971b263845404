import XmppStream.Proofs.Reader.Framing
import XmppStream.Proofs.Reader.Origins

/-! What an opening leads to. Each header comes back from both of its written forms, and behind it a
stanza that declares its namespace comes back whatever the default namespace of the stream is. -/

namespace XmppStream
open Markup Reference

/-- The header with the default namespace that its wrapper declares. -/
def Header.named (h : Header) : Header :=
  { h with defaultNs := some (h.defaultNs.getD Namespace.client) }

theorem Header.toStreamOpen_named (h : Header) : h.named.toStreamOpen = h.toStreamOpen := rfl

theorem Reference.At.unfinished_outside {r : Reader} (h : At r .outside) : r.finished = false := by
  cases h with
  | outside unfinished between depth names scopes => exact unfinished

namespace Reader

/-- Either opening, whatever stands in its fields and however long it is, is read back as one header:
fields that are empty are absent, and only the wrapper of a stream says what the default namespace
is. -/
theorem push_openings (h : Header) (limit : Nat) :
    let wrapped := (fresh .stream limit).push (Utf8.encode h.toStreamOpen)
    let opened := (fresh .webSocket limit).push (Utf8.encode h.toWebSocketOpen)
    (wrapped.1.fault = none ∧ wrapped.1.depth = 1
        ∧ wrapped.2 = [.opened
          { h.received with defaultNs := some (h.defaultNs.getD Namespace.client) }])
      ∧ opened.1.fault = none ∧ opened.1.depth = 0 ∧ opened.1.finished = false
        ∧ opened.2 = [.opened { h.received with defaultNs := none }] := by
  obtain ⟨r, takes, idle, top⟩ := @takes_streamOpen limit h.named rfl
  obtain ⟨r', takes', idle', top'⟩ := takes_webSocketOpen limit h
  have wrapped := takes.push rfl rfl (not_mark_of_beginsTag h.named.beginsTag_toStreamOpen)
  have opened := takes'.push rfl rfl (not_mark_of_beginsTag h.beginsTag_toWebSocketOpen)
  rw [h.toStreamOpen_named] at wrapped
  dsimp only
  rw [wrapped, opened]
  exact ⟨⟨idle.ready, top.place.depth_eq, rfl⟩, idle'.ready, top'.place.depth_eq,
    top'.place.unfinished_outside, rfl⟩

theorem inForce_wrapped {header : Header} {ns : String}
    (declares : ns ≠ "" ∨ header.defaultNs = some "") : InForce [header.named.wrapper] none ns := by
  intro undeclared
  have empty : ns = "" := by simpa [Node.declaresNs] using undeclared
  have default : header.named.wrapper.get? "xmlns" =
      some (header.defaultNs.getD Namespace.client) :=
    congrArg Header.defaultNs header.named.header_wrapper
  unfold Around.nearest
  rw [List.findSome?_cons, default, declares.resolve_left (not_not_intro empty), empty]
  rfl

/-- A stanza written on its own comes out of a stream as it was, whatever the default namespace of
the stream is. Only a stanza in no namespace, which has no declaration to write, needs a stream
without one. -/
theorem push_toXml_behind_open (header : Header) {s : Stanza} (plain : Plain s)
    (declares : s.ns ≠ "" ∨ header.defaultNs = some "") {limit : Nat}
    (fits : (Utf8.encode s.toXml).length ≤ limit) :
    ∃ r, r.fault = none
      ∧ (fresh .stream limit).push (Utf8.encode (header.toStreamOpen ++ s.toXml)) =
        (r, [.opened header.named.received, .stanza s])
      ∧ (fresh .stream limit).pushAll [Utf8.encode header.toStreamOpen, Utf8.encode s.toXml] =
        (r, [.opened header.named.received, .stanza s]) := by
  obtain ⟨r, opens, idle, top⟩ := @takes_streamOpen limit header.named rfl
  have inForce := inForce_wrapped declares
  have enters : (Framing.place .stream header.named).enter? .stream (Reference.startTag none s) =
      some (.stanza (s.declared none :: [header.named.wrapper]) s.bare) := by
    have element : element? [header.named.wrapper] (Reference.startTag none s) = _ :=
      element?_declared plain.legible.here inForce
    unfold Framing.place Place.enter?
    dsimp only
    rw [element]
    rfl
  have room : r.limit = limit := opens.setting.limit
  -- The stanza is read inside the wrapper, whose attributes are those above it.
  have stanza := Takes.stanza_inForce top idle plain.legible inForce enters (room ▸ fits)
  have opening := not_mark_of_beginsTag header.named.beginsTag_toStreamOpen
  have whole := (opens.append stanza).push rfl rfl
    (not_mark_of_beginsTag (header.named.beginsTag_toStreamOpen.append _))
  have first := opens.push rfl rfl opening
  have second := stanza.push idle.ready opens.setting.kept
    (not_mark_of_beginsTag (s.beginsTag_write none))
  rw [header.toStreamOpen_named] at whole first
  refine ⟨r, idle.ready, whole, ?_⟩
  have written : s.write none = s.toXml := rfl
  rw [pushAll, first, if_neg (by rw [idle.ready]; simp), pushAll, ← written, second,
    if_neg (by rw [idle.ready]; simp)]
  rfl

def resident : Stanza where
  name := "message"
  ns := Namespace.client
  attrs := [("to", "a<b'c"), ("id", "&amp;")]
  lang := some "en"
  text := some " ]]>\n"
  children := [{ name := "x", ns := "urn:x", children := [{ name := "y", ns := Namespace.client }] },
    { name := "body", attrs := [("type", "")], text := some "1 > 0" }]

theorem push_toXml_behind_open_resident :
    Plain resident ∧ (resident.ns ≠ "" ∨ (Header.client "a&b").defaultNs = some "")
      ∧ (Utf8.encode resident.toXml).length ≤ 230
      ∧ ∃ r, r.fault = none
        ∧ (fresh .stream 230).push (Utf8.encode ((Header.client "a&b").toStreamOpen ++ resident.toXml)) =
          (r, [.opened (Header.client "a&b").named.received, .stanza resident])
        ∧ (fresh .stream 230).pushAll
            [Utf8.encode (Header.client "a&b").toStreamOpen, Utf8.encode resident.toXml] =
          (r, [.opened (Header.client "a&b").named.received, .stanza resident]) :=
  have plain : Plain resident := Plain.of_unqualified (Node.all_of_preorder _ (by decide +kernel))
  have declares : resident.ns ≠ "" ∨ (Header.client "a&b").defaultNs = some "" := .inl (by decide)
  have fits : (Utf8.encode resident.toXml).length ≤ 230 := by decide +kernel
  ⟨plain, declares, fits, push_toXml_behind_open _ plain declares fits⟩

/-- A stanza in no namespace says nothing of it, and goes into that of the stream. -/
theorem not_always_toXml_behind_open :
    ¬ ∀ (header : Header) (s : Stanza) (limit : Nat), Plain s →
      (Utf8.encode s.toXml).length ≤ limit →
      ((fresh .stream limit).push (Utf8.encode (header.toStreamOpen ++ s.toXml))).2 =
        [.opened header.named.received, .stanza s] := by
  intro always
  have plain : Plain { name := "message" } :=
    Plain.of_unqualified (Node.all_of_preorder _ (by decide +kernel))
  have read := always {} _ 10 plain (by decide +kernel)
  revert read
  decide +kernel

end Reader
end XmppStream
