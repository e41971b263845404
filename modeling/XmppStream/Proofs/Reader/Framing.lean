import XmppStream.Proofs.Reader.Taking

/-! The elements that open and close a stream, in every framing: as the client writes them, and as
the reader takes them. -/

namespace XmppStream
open Markup Reference

namespace Framing

def openText (framing : Framing) (header : Header) : String :=
  match framing with
  | .stream => header.toStreamOpen
  | .webSocket => header.toWebSocketOpen
  | .standalone => ""

def closeText : Framing → String
  | .stream => Header.streamClose
  | .webSocket => Header.webSocketClose
  | .standalone => ""

def around (framing : Framing) (header : Header) : Option String :=
  match framing with
  | .stream => header.defaultNs
  | .webSocket | .standalone => none

/-- What the other side hears before the first stanza. -/
def opened : Framing → Header → List Event
  | .stream, header => [.opened header.received]
  | .webSocket, header => [.opened { header.received with defaultNs := none }]
  | .standalone, _ => []

def closed : Framing → List Event
  | .stream | .webSocket => [.closed]
  | .standalone => []

def place (framing : Framing) (header : Header) : Place :=
  match framing with
  | .stream => .wrapped header.wrapper (Utf8.encode "stream:stream")
  | .webSocket | .standalone => .outside

def above (framing : Framing) (header : Header) : Around :=
  match framing with
  | .stream => [header.wrapper]
  | .webSocket | .standalone => []

def ended : Framing → Place
  | .stream | .webSocket => .closed
  | .standalone => .outside

end Framing

namespace Reader

theorem idle_fresh (framing : Framing) (limit : Nat) : Idle (fresh framing limit) :=
  ⟨rfl, rfl, rfl⟩

theorem takes_streamOpen (limit : Nat) {header : Header} (named : header.defaultNs.isSome) :
    ∃ r, Takes (fresh .stream limit) header.toStreamOpen r (Framing.opened .stream header)
      ∧ Idle r ∧ Top .stream r (Framing.place .stream header) := by
  have declaration : Lexes "<?xml version='1.0'?>" [.ignored] := by
    have front : front (Utf8.encode "<?xml version='1.0'?>") = .lexeme ⟨.ignored, 21⟩ [] := by
      decide +kernel
    exact Lexes.of_front_nil front
  have unread := idle_fresh .stream limit
  have first : Takes (fresh .stream limit) "<?xml version='1.0'?>"
      (fresh .stream limit) [] := (Takes.token unread declaration rfl rfl).1
  have tag : IsTagName "stream:stream" := by decide
  have wrapper := Lexes.opening tag.readsAsName (Header.readsAsKey header.known_wrapper)
  obtain ⟨node, element, name, ns⟩ := header.element?_wrapper
  have received : Reference.header header.wrapper = header.received := by
    obtain ⟨d, hd⟩ := Option.isSome_iff_exists.1 named
    rw [header.header_wrapper]
    unfold Header.received
    rw [hd]
    rfl
  have enters : Place.outside.enter? .stream (Utf8.encode (written "stream:stream" header.wrapper)) =
      some (.frame (Framing.place .stream header) (Framing.opened .stream header)) := by
    unfold Place.enter? Framing.place Framing.opened
    rw [element]
    dsimp only
    rw [if_pos ⟨name, ns⟩, tagName_written tag.not_blank, received]
  obtain ⟨r, opens, top⟩ := (Top.fresh .stream limit).enter_frame enters
  obtain ⟨second, idle⟩ := Takes.token unread wrapper opens top.nodes
  refine ⟨r, ?_, idle, top⟩
  rw [header.toStreamOpen_eq]
  exact first.append second

theorem takes_frame {framing : Framing} {r : Reader} {place inside after : Place} {text : String}
    {tag : Bytes} {events more : List Event} (top : Top framing r place) (idle : Idle r)
    (lexes : Lexes text [.empty tag])
    (enters : place.enter? framing tag = some (.frame inside events))
    (leaves : inside.leave? (tagName tag) = some (after, more)) :
    ∃ r', Takes r text r' (events ++ more) ∧ Idle r' ∧ Top framing r' after := by
  obtain ⟨r', opens, there⟩ := top.enter_frame enters
  obtain ⟨r'', closes, back⟩ := there.leave_some leaves
  have both : r.apply (.empty tag) = _ := emptyTag_of_ok opens closes
  obtain ⟨takes, idle'⟩ := Takes.token idle lexes both back.nodes
  exact ⟨r'', takes, idle', back⟩

theorem takes_webSocketOpen (limit : Nat) (header : Header) :
    ∃ r, Takes (fresh .webSocket limit) header.toWebSocketOpen r
        (Framing.opened .webSocket header)
      ∧ Idle r ∧ Top .webSocket r (Framing.place .webSocket header) := by
  have tag : IsTagName "open" := by decide
  have lexes := Lexes.emptyTag tag.readsAsName (Header.readsAsKey header.known_opening)
  obtain ⟨node, element, name, ns⟩ := header.element?_webSocketOpen
  rw [← header.toWebSocketOpen_eq] at lexes
  have received : { Reference.header header.opening with defaultNs := none } =
      { header.received with defaultNs := none } := by rw [header.header_opening]
  have enters : Place.outside.enter? .webSocket (Utf8.encode (written "open" header.opening)) =
      some (.frame (.framing false (Utf8.encode "open")) (Framing.opened .webSocket header)) := by
    unfold Place.enter? Framing.opened
    rw [element]
    dsimp only
    rw [if_neg (not_not_intro ns), if_pos name, tagName_written tag.not_blank, received]
  have leaves : (Place.framing false (Utf8.encode "open")).leave?
      (tagName (Utf8.encode (written "open" header.opening))) = some (.outside, []) := by
    rw [tagName_written tag.not_blank]
    rfl
  have takes := takes_frame (.fresh .webSocket limit) (idle_fresh .webSocket limit) lexes enters leaves
  rwa [List.append_nil] at takes

def closeTag : String := "close xmlns=\"" ++ Namespace.framing ++ "\""

theorem takes_webSocketClose {r : Reader} (top : Top .webSocket r .outside) (idle : Idle r) :
    ∃ r', Takes r Header.webSocketClose r' [.closed] ∧ Idle r'
      ∧ Top .webSocket r' .closed := by
  have front : front (Utf8.encode Header.webSocketClose) =
      .lexeme ⟨.empty (Utf8.encode closeTag), (Utf8.encode Header.webSocketClose).length⟩ [] := by
    decide +kernel
  have element : element? [] (Utf8.encode closeTag) = some ⟨[("xmlns", Namespace.framing)],
      { name := "close", ns := Namespace.framing }⟩ := by decide +kernel
  have enters : Place.outside.enter? .webSocket (Utf8.encode closeTag) =
      some (.frame (.framing true (tagName (Utf8.encode closeTag))) []) := by
    unfold Place.enter?
    rw [element]
    rfl
  have leaves : (Place.framing true (tagName (Utf8.encode closeTag))).leave?
      (tagName (Utf8.encode closeTag)) = some (.closed, [.closed]) := by
    unfold Place.leave?
    dsimp only
    rw [if_pos rfl]
    rfl
  exact takes_frame top idle (Lexes.of_front_nil front) enters leaves

theorem takes_streamClose {header : Header} {r : Reader}
    (top : Top .stream r (Framing.place .stream header)) (idle : Idle r) :
    ∃ r', Takes r Header.streamClose r' [.closed] ∧ Idle r'
      ∧ Top .stream r' .closed := by
  have tag : IsTagName "stream:stream" := by decide
  have lexes : Lexes Header.streamClose [.closing (Utf8.encode "stream:stream")] :=
    Lexes.closing tag.readsAsName
  have leaves : (Framing.place .stream header).leave? (Utf8.encode "stream:stream") =
      some (.closed, [.closed]) := rfl
  obtain ⟨r', closes, there⟩ := top.leave_some leaves
  obtain ⟨takes, idle'⟩ := Takes.token idle lexes closes there.nodes
  exact ⟨r', takes, idle', there⟩

theorem takes_open (framing : Framing) (limit : Nat) {header : Header}
    (named : framing = .stream → header.defaultNs.isSome) :
    ∃ r, Takes (fresh framing limit) (framing.openText header) r (framing.opened header)
      ∧ Idle r ∧ Top framing r (framing.place header) := by
  cases framing with
  | stream => exact takes_streamOpen limit (named rfl)
  | webSocket => exact takes_webSocketOpen limit header
  | standalone => exact ⟨_, Takes.nil _, idle_fresh .standalone limit, .fresh .standalone limit⟩

theorem takes_close {framing : Framing} {header : Header} {r : Reader}
    (top : Top framing r (framing.place header)) (idle : Idle r) :
    ∃ r', Takes r framing.closeText r' framing.closed ∧ Idle r' ∧ Top framing r' framing.ended := by
  cases framing with
  | stream => exact takes_streamClose top idle
  | webSocket => exact takes_webSocketClose top idle
  | standalone => exact ⟨r, Takes.nil r, idle, top⟩

theorem surrounds_above (framing : Framing) {header : Header}
    (named : framing = .stream → header.defaultNs.isSome) :
    Surrounds (framing.above header) (framing.around header) := by
  cases framing with
  | stream =>
    obtain ⟨d, hd⟩ := Option.isSome_iff_exists.1 (named rfl)
    have declared : header.wrapper.get? "xmlns" = some (header.defaultNs.getD Namespace.client) :=
      congrArg Header.defaultNs header.header_wrapper
    unfold Surrounds Framing.above Framing.around Around.nearest
    rw [List.findSome?_cons, declared, hd]
    rfl
  | webSocket => rfl
  | standalone => rfl

theorem enter_legible {framing : Framing} {header : Header} {s : Stanza} (legible : Legible s)
    (named : framing = .stream → header.defaultNs.isSome)
    (other : framing = .webSocket → s.ns ≠ Namespace.framing) :
    (framing.place header).enter? framing (Reference.startTag (framing.around header) s) =
      some (.stanza (s.declared (framing.around header) :: framing.above header) s.bare) := by
  have element := element?_declared legible ((surrounds_above framing named).inForce s.ns)
  unfold Reference.startTag
  cases framing with
  | stream =>
    unfold Framing.place Place.enter?
    dsimp only
    have inner : element? [header.wrapper] _ = _ := element
    rw [inner]
    rfl
  | webSocket =>
    unfold Framing.place Place.enter?
    dsimp only
    have inner : element? [] _ = _ := element
    rw [inner]
    exact if_pos (other rfl)
  | standalone =>
    unfold Framing.place Place.enter?
    dsimp only
    have inner : element? [] _ = _ := element
    rw [inner]
    rfl

/-- A reader takes a whole stream of plain stanzas: its header, the stanzas in order and its close. -/
theorem takes_stream (framing : Framing) (limit : Nat) {header : Header} {ss : List Stanza}
    (named : framing = .stream → header.defaultNs.isSome) (plain : ∀ s ∈ ss, Plain s)
    (other : framing = .webSocket → ∀ s ∈ ss, s.ns ≠ Namespace.framing)
    (fits : ∀ s ∈ ss, (Utf8.encode (s.write (framing.around header))).length ≤ limit) :
    ∃ r, Takes (fresh framing limit)
        (framing.openText header ++ (String.join (ss.map (·.write (framing.around header)))
          ++ framing.closeText))
        r (framing.opened header ++ (ss.map .stanza ++ framing.closed))
      ∧ Top framing r framing.ended := by
  obtain ⟨r, opens, idle, top⟩ := takes_open framing limit named
  obtain ⟨r', closes, -, last⟩ := takes_close top idle
  have room : r.limit = limit := opens.setting.limit
  have legible : ∀ s ∈ ss, s.All Legible := fun s h => (plain s h).legible
  have inside := Takes.stanzas top idle (surrounds_above framing named) legible
    (fun s h => enter_legible (legible s h).here named fun web => other web s h)
    (fun s h => room ▸ fits s h)
  exact ⟨r', opens.append (inside.append closes), last⟩

theorem depth_ended {framing : Framing} {r : Reader} (top : Top framing r framing.ended) :
    r.depth = 0 := by
  rw [top.place.depth_eq]
  cases framing <;> rfl

end Reader

end XmppStream
