import Mathlib.Data.List.Basic
import XmppStream.Proofs.Reader.Report
import XmppStream.Proofs.Reader.TopLevel

/-! The framings agree on stanzas. What comes out of a stream without a frame comes out of the same
stream inside a wrapper that declares no default namespace, and over WebSocket where no element of
it frames the stream. -/

namespace XmppStream.Reference
open Markup

theorem widen_ne_failed {ts us : List Token} {h : ts.length ≤ us.length} {answer : Answer ts} :
    answer.widen h ≠ .failed ↔ answer ≠ .failed := by
  cases answer <;> simp [Answer.widen]

section
variable {around outer : Around}

theorem Around.nearest_append (key : String) :
    Around.nearest (around ++ outer) key = (around.nearest key).or (outer.nearest key) :=
  List.findSome?_append

theorem Around.resolve?_append {label ns : String} (h : around.resolve? label = some ns) :
    Around.resolve? (around ++ outer) label = some ns := by
  unfold Around.resolve? at h ⊢
  split_ifs at h ⊢
  · exact h
  · rw [Around.nearest_append, h, Option.some_or]

variable (undefaulted : outer.nearest "xmlns" = none)
include undefaulted

theorem Around.namespaceOf_append {name ns : String} (h : around.namespaceOf name = some ns) :
    Around.namespaceOf (around ++ outer) name = some ns := by
  unfold Around.namespaceOf at h ⊢
  cases labeled : label? name with
  | none =>
    rw [labeled] at h
    rwa [Around.nearest_append, undefaulted, Option.or_none]
  | some label =>
    rw [labeled] at h
    exact Around.resolve?_append h

theorem element?_append {tag : Bytes} {e : Element} (h : element? around tag = some e) :
    element? (around ++ outer) tag = some e := by
  rw [element?] at h
  split at h
  case h_2 => cases h
  next name attrs decoded read =>
  dsimp only at h
  split at h
  · cases h
  next ns resolved =>
  split_ifs at h with declared
  have found (label : String) (mem : label ∈ labels (plain attrs)) :
      Around.resolve? (attrs :: (around ++ outer)) label = Around.resolve? (attrs :: around) label := by
    obtain ⟨ns, bound⟩ := Option.isSome_iff_exists.1 (List.all_eq_true.1 declared label mem)
    rw [bound, ← List.cons_append]
    exact Around.resolve?_append bound
  have resolved' : Around.namespaceOf (attrs :: (around ++ outer)) name = some ns := by
    rw [← List.cons_append]
    exact Around.namespaceOf_append undefaulted resolved
  have declared' : (labels (plain attrs)).all fun label =>
      (Around.resolve? (attrs :: (around ++ outer)) label).isSome := by
    rw [List.all_eq_true] at declared ⊢
    intro label mem
    rw [found label mem]
    exact declared label mem
  have prefixes : ((labels (plain attrs)).filterMap fun label =>
        (Around.resolve? (attrs :: (around ++ outer)) label).map fun ns => (label, ns)) =
      (labels (plain attrs)).filterMap fun label =>
        (Around.resolve? (attrs :: around) label).map fun ns => (label, ns) :=
    List.filterMap_congr fun label mem => by rw [found label mem]
  rw [element?, decoded, read]
  dsimp only
  rw [resolved']
  dsimp only
  rw [if_pos declared', prefixes]
  exact h

theorem content_append {name : Bytes} {body : Body} {ts : List Token}
    (fine : content around name body ts ≠ .failed) :
    content (around ++ outer) name body ts = content around name body ts := by
  -- Along the recursion of the reference; a refused element is what `fine` excludes.
  fun_induction content around name body ts with
  | case1 => rw [content]
  | case2 => exact absurd rfl fine
  | case3 around name body tag ts e begun inner rest shorter closed ihChild ihRest =>
    have child := ihChild (by rw [closed]; simp)
    rw [content, element?_append undefaulted begun]
    dsimp only
    rw [← List.cons_append, child, closed]
    dsimp only
    rw [ihRest (widen_ne_failed.1 fine)]
  | case4 around name body tag ts e begun unfinished ih =>
    have child := ih (by rw [unfinished]; simp)
    rw [content, element?_append undefaulted begun]
    dsimp only
    rw [← List.cons_append, child, unfinished]
  | case5 => exact absurd rfl fine
  | case6 => exact absurd rfl fine
  | case7 around name body tag ts e begun ih =>
    rw [content, element?_append undefaulted begun]
    dsimp only
    rw [ih (widen_ne_failed.1 fine)]
  | case8 => rw [content, if_pos rfl]
  | case9 => exact absurd rfl fine
  | case10 => exact absurd rfl fine
  | case11 around name body raw ts text good ih =>
    rw [content, good]
    dsimp only
    rw [ih (widen_ne_failed.1 fine)]
  | case12 => exact absurd rfl fine
  | case13 around name body raw ts text good ih =>
    rw [content, good]
    dsimp only
    rw [ih (widen_ne_failed.1 fine)]
  | case14 around name body ts ih => rw [content, ih (widen_ne_failed.1 fine)]

end

/-- The tags of the elements that lie in no other one, `depth` elements being open at first. -/
def outermost (depth : Nat) : List Token → List Bytes
  | [] => []
  | .opening tag :: ts =>
    if depth = 0 then tag :: outermost 1 ts else outermost (depth + 1) ts
  | .empty tag :: ts => if depth = 0 then tag :: outermost 0 ts else outermost depth ts
  | .closing _ :: ts => outermost (depth - 1) ts
  | .text _ :: ts | .cdata _ :: ts | .ignored :: ts => outermost depth ts

theorem widen_eq_closed {ts us : List Token} {h : ts.length ≤ us.length} {answer : Answer ts}
    {body : Body} {rest : List Token} {shorter : rest.length < us.length}
    (closed : answer.widen h = .closed body rest shorter) :
    ∃ shorter, answer = .closed body rest shorter := by
  cases answer with
  | closed body' rest' shorter' =>
    cases closed
    exact ⟨shorter', rfl⟩
  | unfinished => cases closed
  | failed => cases closed

theorem outermost_content {around : Around} {name : Bytes} {body body' : Body}
    {ts rest : List Token} {shorter : rest.length < ts.length}
    (closed : content around name body ts = .closed body' rest shorter) (depth : Nat) :
    outermost (depth + 1) ts = outermost depth rest := by
  -- Everything up to the end tag is deeper than the element itself.
  fun_induction content around name body ts generalizing body' rest depth with
  | case1 => cases closed
  | case2 => cases closed
  | case3 around name body tag ts e begun inner after shorter child ihChild ihRest =>
    obtain ⟨_, closed⟩ := widen_eq_closed closed
    rw [outermost, if_neg (Nat.succ_ne_zero _), ihChild child, ihRest closed]
  | case4 => cases closed
  | case5 => cases closed
  | case6 => cases closed
  | case7 around name body tag ts e begun ih =>
    obtain ⟨_, closed⟩ := widen_eq_closed closed
    rw [outermost, if_neg (Nat.succ_ne_zero _), ih closed]
  | case8 =>
    cases closed
    rw [outermost, Nat.add_sub_cancel]
  | case9 => cases closed
  | case10 => cases closed
  | case11 around name body raw ts text good ih =>
    obtain ⟨_, closed⟩ := widen_eq_closed closed
    rw [outermost, ih closed]
  | case12 => cases closed
  | case13 around name body raw ts text good ih =>
    obtain ⟨_, closed⟩ := widen_eq_closed closed
    rw [outermost, ih closed]
  | case14 around name body ts ih =>
    obtain ⟨_, closed⟩ := widen_eq_closed closed
    rw [outermost, ih closed]

/-- What begins a stanza outside of all elements begins the same at this place. -/
def Carries (framing : Framing) (place : Place) (outer : Around) (tag : Bytes) : Prop :=
  ∀ e, element? [] tag = some e →
    place.enter? framing tag = some (.stanza (e.attrs :: outer) e.node)

theorem carries_wrapped {attrs : Table} (undefaulted : attrs.get? "xmlns" = none) (name tag : Bytes) :
    Carries .stream (.wrapped attrs name) [attrs] tag := by
  intro e begun
  have outer : Around.nearest [attrs] "xmlns" = none := by
    rw [Around.nearest, List.findSome?_singleton, undefaulted]
  have inside : element? [attrs] tag = some e := element?_append outer begun
  rw [Place.enter?, inside]
  rfl

theorem carries_webSocket {tag : Bytes}
    (other : ∀ e ∈ element? [] tag, e.node.ns ≠ Namespace.framing) :
    Carries .webSocket .outside [] tag := by
  intro e begun
  rw [Place.enter?, begun]
  exact if_pos (other e begun)

theorem enter_standalone {tag : Bytes} {entry : Entry}
    (enters : Place.enter? .standalone .outside tag = some entry) :
    ∃ e, element? [] tag = some e ∧ entry = .stanza [e.attrs] e.node := by
  rw [Place.enter?] at enters
  cases begun : element? [] tag with
  | none =>
    rw [begun] at enters
    cases enters
  | some e =>
    rw [begun] at enters
    cases enters
    exact ⟨e, rfl, rfl⟩

theorem allows_of_open {place : Place} (open_ : place ≠ .closed) (text : String) :
    place.allows text := by
  rw [Place.allows, Bool.or_eq_true, decide_eq_true_eq]
  exact .inl open_

/-- A stream that is read without a frame is read alike at a place that carries its outermost
elements. -/
theorem stream_eq_standalone {framing : Framing} {place : Place} {outer : Around}
    (undefaulted : outer.nearest "xmlns" = none) (open_ : place ≠ .closed) {ts : List Token}
    (carries : ∀ tag ∈ outermost 0 ts, Carries framing place outer tag)
    (ok : (stream .standalone .outside ts).ok) :
    stream framing place ts = stream .standalone .outside ts := by
  -- Without a frame the reader is outside at each step, and an entry is a stanza.
  generalize standing : Place.outside = here at ok ⊢
  fun_induction stream .standalone here ts with
  | case1 => rw [stream]
  | case2 => cases ok
  | case3 here tag ts inside events frame ih =>
    subst standing
    obtain ⟨e, -, stanza⟩ := enter_standalone frame
    cases stanza
  | case4 here tag ts around node stanza body rest shorter closed ih =>
    subst standing
    obtain ⟨e, begun, same⟩ := enter_standalone stanza
    cases same
    rw [outermost, if_pos rfl, List.forall_mem_cons] at carries
    have inner : content (e.attrs :: outer) (tagName tag) {} ts = .closed body rest shorter := by
      rw [← closed]
      show content ([e.attrs] ++ outer) (tagName tag) {} ts = _
      exact content_append undefaulted (by rw [closed]; simp)
    rw [stream, carries.1 e begun]
    dsimp only
    rw [inner]
    dsimp only
    rw [ih (by rw [← outermost_content closed]; exact carries.2) rfl ok]
  | case5 here tag ts around node stanza unfinished =>
    subst standing
    obtain ⟨e, begun, same⟩ := enter_standalone stanza
    cases same
    rw [outermost, if_pos rfl, List.forall_mem_cons] at carries
    have inner : content (e.attrs :: outer) (tagName tag) {} ts = .unfinished := by
      rw [← unfinished]
      show content ([e.attrs] ++ outer) (tagName tag) {} ts = _
      exact content_append undefaulted (by rw [unfinished]; simp)
    rw [stream, carries.1 e begun]
    dsimp only
    rw [inner]
  | case6 => cases ok
  | case7 => cases ok
  | case8 => cases ok
  | case9 here tag ts inside events frame after more ends ih =>
    subst standing
    obtain ⟨e, -, stanza⟩ := enter_standalone frame
    cases stanza
  | case10 here tag ts around node stanza ih =>
    subst standing
    obtain ⟨e, begun, same⟩ := enter_standalone stanza
    cases same
    rw [outermost, if_pos rfl, List.forall_mem_cons] at carries
    rw [stream, carries.1 e begun]
    dsimp only
    rw [ih carries.2 rfl ok]
  | case11 => cases ok
  | case12 here name ts after more ends ih =>
    subst standing
    cases ends
  | case13 => cases ok
  | case14 here raw ts text good allowed ih =>
    rw [stream, good]
    dsimp only
    rw [if_pos (allows_of_open open_ text), ih carries standing ok]
  | case15 => cases ok
  | case16 => cases ok
  | case17 here raw ts text good allowed ih =>
    rw [stream, good]
    dsimp only
    rw [if_pos (allows_of_open open_ text), ih carries standing ok]
  | case18 => cases ok
  | case19 here ts ih => rw [stream, ih carries standing ok]

theorem At.charging {r : Reader} {place : Place} (h : At r place) (c : Nat) :
    At (r.charging c) place := by
  cases h with
  | outside unfinished between depth names scopes =>
    exact .outside unfinished between depth names scopes
  | wrapped stream unfinished between depth decoded names agree =>
    exact .wrapped stream unfinished between depth decoded names agree
  | framing unfinished inside depth decoded names scopes kind =>
    exact .framing unfinished inside depth decoded names scopes kind
  | closed finished depth names => exact .closed finished depth names

def Yields (pushed : Reader × List Event) (events : List Event) : Prop :=
  pushed.1.fault = none ∧ pushed.2 = events

section
variable {framing : Framing} {r : Reader} {place : Place} {data : Bytes} (top : Top framing r place)
  (kept : r.kept = []) (mark : ¬ Reader.byteOrderMark <+: data)
include top kept mark

theorem push_stream (fits : r.charged + data.length ≤ r.limit) :
    (r.push data).2 = (stream framing place ((lex data).1.map Lexeme.token)).events
      ∧ ((r.push data).1.fault = none ↔
        (stream framing place ((lex data).1.map Lexeme.token)).ok
          ∧ Reader.endingFault r.limit (uncut data) (lex data).2 = none) := by
  have report := Reader.report_push_of_room top.ready kept mark fits
  have events := congrArg Reader.Report.events report
  have fault := congrArg Reader.Report.fault report
  obtain ⟨delivered, fine⟩ := run_stream framing place ((lex data).1.map Lexeme.token) r top
  refine ⟨events.trans delivered, ?_⟩
  have ended : (r.push data).1.fault = _ := fault
  rw [ended, ← fine, Option.isNone_iff_eq_none]
  dsimp only [Reader.reportOf]
  rw [Reader.fault_settle, Option.or_eq_none_iff, Reader.limit_run]

theorem push_frame {tag : Bytes} {size : Nat} {inside : Place} {events : List Event}
    (cut : lex data = ([⟨.opening tag, size⟩], .text []))
    (frame : place.enter? framing tag = some (.frame inside events)) :
    ∃ r', r.push data = (r', events) ∧ Top framing r' inside ∧ r'.kept = [] ∧ r'.charged = 0
      ∧ r'.limit = r.limit := by
  obtain ⟨r', opens, there⟩ := top.enter_frame frame
  have setting := Reader.SameSetting.apply opens
  refine ⟨r'.charging 0, ?_, ⟨there.framing, there.ready, there.nodes, there.place.charging 0⟩,
    setting.kept.trans kept, rfl, setting.limit⟩
  rw [Reader.push_of_complete top.ready kept mark (by rw [cut]), cut, Reader.steps, Reader.step,
    if_neg (by rw [top.ready]; simp), opens]
  dsimp only
  rw [Reader.charge_of_closed there.nodes, Reader.steps, List.append_nil]

end

def wrapperTag : Bytes :=
  Utf8.encode "<stream:stream xmlns:stream='http://etherx.jabber.org/streams'>"

def wrapperContent : Bytes :=
  Utf8.encode "stream:stream xmlns:stream='http://etherx.jabber.org/streams'"

def wrapperAttrs : Table := [("xmlns:stream", Namespace.stream)]

theorem front_wrapperTag : front wrapperTag = .lexeme ⟨.opening wrapperContent, 63⟩ [] := by
  decide +kernel

theorem lex_wrapperTag : lex wrapperTag = ([⟨.opening wrapperContent, 63⟩], .text []) := by
  decide +kernel

theorem enter_wrapper :
    Place.enter? .stream .outside wrapperContent =
      some (.frame (.wrapped wrapperAttrs (tagName wrapperContent)) [.opened {}]) := by
  have begun : element? [] wrapperContent =
      some ⟨wrapperAttrs, { name := "stream", ns := Namespace.stream }⟩ := by decide +kernel
  have plain : header wrapperAttrs = {} := by decide +kernel
  rw [Place.enter?, begun]
  dsimp only
  rw [if_pos ⟨rfl, rfl⟩, plain]

theorem stream_inside_wrapper {ts : List Token} (ok : (stream .standalone .outside ts).ok) :
    stream .stream (.wrapped wrapperAttrs (tagName wrapperContent)) ts =
      stream .standalone .outside ts := by
  have undefaulted : Around.nearest [wrapperAttrs] "xmlns" = none := rfl
  have carries (tag : Bytes) : Carries .stream (.wrapped wrapperAttrs (tagName wrapperContent))
      [wrapperAttrs] tag := carries_wrapped rfl _ tag
  have open_ : Place.wrapped wrapperAttrs (tagName wrapperContent) ≠ .closed := by simp
  exact stream_eq_standalone undefaulted open_ (fun tag _ => carries tag) ok

theorem stream_wrapper {ts : List Token} (ok : (stream .standalone .outside ts).ok) :
    stream .stream .outside (.opening wrapperContent :: ts) =
      (stream .standalone .outside ts).after [.opened {}] := by
  rw [stream, enter_wrapper]
  dsimp only
  rw [stream_inside_wrapper ok]

/-- Whatever a stream without a frame delivers, it delivers right after the opening of a wrapper, and
over WebSocket if none of its outermost elements frames a stream. -/
theorem framings_agree {limit : Nat} {data : Bytes} (mark : ¬ Reader.byteOrderMark <+: data)
    (fits : data.length + 1000 ≤ limit)
    (accepted : ((Reader.fresh .standalone limit).push data).1.fault = none) :
    let events := ((Reader.fresh .standalone limit).push data).2
    Yields ((Reader.fresh .stream limit).push (wrapperTag ++ data)) (.opened {} :: events)
      ∧ Yields ((Reader.fresh .stream limit).pushAll [wrapperTag, data]) (.opened {} :: events)
      ∧ ((∀ tag ∈ outermost 0 ((lex data).1.map Lexeme.token), ∀ e ∈ element? [] tag,
            e.node.ns ≠ Namespace.framing) →
          Yields ((Reader.fresh .webSocket limit).push data) events) := by
  have room (framing : Framing) : (Reader.fresh framing limit).charged + data.length ≤ limit := by
    show 0 + data.length ≤ limit
    omega
  obtain ⟨delivered, accepts⟩ := push_stream (.fresh .standalone limit) rfl mark (room _)
  obtain ⟨ok, ended⟩ := accepts.1 accepted
  dsimp only
  rw [delivered]
  refine ⟨?_, ?_, fun unframed => ?_⟩
  · have begins := front_lexeme_append front_wrapperTag data
    rw [List.nil_append] at begins
    have first : wrapperTag = 0x3C :: wrapperTag.tail := by decide +kernel
    have unmarked : ¬ Reader.byteOrderMark <+: wrapperTag ++ data := by
      rw [first]
      have nothing : ¬ Reader.byteOrderMark <+: [] := by decide
      exact fun marked => nothing (Reader.byteOrderMark_before marked)
    have room : (Reader.fresh .stream limit).charged + (wrapperTag ++ data).length ≤ limit := by
      have length : wrapperTag.length = 63 := by decide +kernel
      show 0 + (wrapperTag ++ data).length ≤ limit
      rw [List.length_append]
      omega
    have pushed := push_stream (.fresh .stream limit) rfl unmarked room
    rw [lex_of_lexeme begins, uncut_of_lexeme begins, List.map_cons, stream_wrapper ok] at pushed
    exact ⟨pushed.2.2 ⟨ok, ended⟩, pushed.1⟩
  · have unmarked : ¬ Reader.byteOrderMark <+: wrapperTag := by decide +kernel
    obtain ⟨r, opens, top, kept, charged, same⟩ := push_frame (.fresh .stream limit) rfl unmarked
      lex_wrapperTag enter_wrapper
    have room : r.charged + data.length ≤ r.limit := by
      rw [charged, same]
      exact room .stream
    have pushed := push_stream top kept mark room
    rw [stream_inside_wrapper ok, same] at pushed
    have opening : (Reader.fresh .stream limit).pushAll [wrapperTag] = (r, [.opened {}]) := by
      rw [Reader.pushAll, opens, if_neg (by rw [top.ready]; simp), Reader.pushAll, List.append_nil]
    have both := Reader.pushAll_concat (Reader.fresh .stream limit) [wrapperTag] data
    rw [opening] at both
    rw [show [wrapperTag, data] = [wrapperTag] ++ [data] from rfl, both]
    exact ⟨pushed.2.2 ⟨ok, ended⟩, congrArg (Event.opened {} :: ·) pushed.1⟩
  · have undefaulted : Around.nearest [] "xmlns" = none := rfl
    have carries : ∀ tag ∈ outermost 0 ((lex data).1.map Lexeme.token),
        Carries .webSocket .outside [] tag := fun tag mem => carries_webSocket (unframed tag mem)
    have open_ : Place.outside ≠ .closed := by simp
    have same := stream_eq_standalone undefaulted open_ carries ok
    have pushed := push_stream (.fresh .webSocket limit) rfl mark (room _)
    rw [same] at pushed
    exact ⟨pushed.2.2 ⟨ok, ended⟩, pushed.1⟩

def framelessInput : Bytes := Utf8.encode "<a xmlns='u'><b/>x</a> <p:c xmlns:p='v'><d"

theorem framings_agree_framelessInput :
    ¬ Reader.byteOrderMark <+: framelessInput ∧ framelessInput.length + 1000 ≤ 1100
      ∧ ((Reader.fresh .standalone 1100).push framelessInput).1.fault = none
      ∧ (∀ tag ∈ outermost 0 ((lex framelessInput).1.map Lexeme.token), ∀ e ∈ element? [] tag,
          e.node.ns ≠ Namespace.framing)
      ∧ Yields ((Reader.fresh .stream 1100).push (wrapperTag ++ framelessInput))
          (.opened {} :: ((Reader.fresh .standalone 1100).push framelessInput).2)
      ∧ Yields ((Reader.fresh .stream 1100).pushAll [wrapperTag, framelessInput])
          (.opened {} :: ((Reader.fresh .standalone 1100).push framelessInput).2)
      ∧ Yields ((Reader.fresh .webSocket 1100).push framelessInput)
          ((Reader.fresh .standalone 1100).push framelessInput).2 := by
  have mark : ¬ Reader.byteOrderMark <+: framelessInput := by decide +kernel
  have fits : framelessInput.length + 1000 ≤ 1100 := by decide +kernel
  have accepted : ((Reader.fresh .standalone 1100).push framelessInput).1.fault = none := by
    decide +kernel
  have unframed : ∀ tag ∈ outermost 0 ((lex framelessInput).1.map Lexeme.token),
      ∀ e ∈ element? [] tag, e.node.ns ≠ Namespace.framing := by decide +kernel
  obtain ⟨single, pieces, webSocket⟩ := framings_agree mark fits accepted
  exact ⟨mark, fits, accepted, unframed, single, pieces, webSocket unframed⟩

end XmppStream.Reference
