import XmppStream.Connection.Basic
import XmppStream.Proofs.Reader.Framing

/-! What a connection writes, the other side reads: the header, the stanzas in order and the close,
in every framing. -/

namespace XmppStream.Connection
open Markup Reference

def fresh (framing : Framing) (limit : Nat) : Connection where
  wire := {}
  reader := Reader.fresh framing limit

def sendAll : List Stanza → Act Connection ConnectionFault Unit
  | [] => pure ()
  | s :: ss => do
    send s
    sendAll ss

def speak (header : Header) (ss : List Stanza) : Act Connection ConnectionFault Unit := do
  sendOpen header
  sendAll ss
  sendClose

def spoken (c : Connection) : String := String.join c.wire.sent.reverse

/-- What the other side hears of a stream. -/
def heard (framing : Framing) (header : Header) (ss : List Stanza) : List Event :=
  framing.opened header ++ (ss.map .stanza ++ framing.closed)

structure Writes (act : Act Connection ConnectionFault Unit) (c c' : Connection) (text : String) :
    Prop where
  done : act c = (.ready (), c')
  spoken : c'.spoken = c.spoken ++ text
  reader : c'.reader = c.reader
  works : (∀ k, c.wire.trouble k = none) → ∀ k, c'.wire.trouble k = none

namespace Writes

variable {act act' : Act Connection ConnectionFault Unit} {c c' c'' : Connection}
  {text more : String}

theorem andThen (h : Writes act c c' text) (h' : Writes act' c' c'' more) :
    Writes (do act; act') c c'' (text ++ more) := by
  refine ⟨?_, ?_, h'.reader.trans h.reader, fun works => h'.works (h.works works)⟩
  · rw [Act.bind_apply, Act.andThen, h.done]
    exact h'.done
  · rw [h'.spoken, h.spoken, String.append_assoc]

theorem of_apply_eq (same : act c = act' c) (h : Writes act' c c' text) : Writes act c c' text :=
  ⟨same.trans h.done, h.spoken, h.reader, h.works⟩

theorem nothing (c : Connection) : Writes (pure ()) c c "" :=
  ⟨rfl, String.append_empty.symm, rfl, id⟩

theorem write (works : ∀ k, c.wire.trouble k = none) (text : String) :
    ∃ c', Writes (Connection.write text) c c' text ∧ c'.defaultNs = c.defaultNs := by
  refine ⟨{ c with wire := (c.wire.write text).2 }, ⟨?_, ?_, rfl, fun works k => ?_⟩, rfl⟩
  · unfold Connection.write Wire.write
    rw [works]
  · unfold Connection.spoken Wire.write
    rw [works]
    dsimp only
    rw [List.reverse_cons, String.join_append, String.join_cons, String.join_nil,
      String.append_empty]
  · unfold Wire.write
    rw [works]
    exact works k

end Writes

theorem written_eq (c : Connection) (s : Stanza) : c.written s = s.write c.defaultNs := by
  unfold written
  cases c.defaultNs <;> rfl

theorem writes_sendAll {c : Connection} (works : ∀ k, c.wire.trouble k = none) (ss : List Stanza) :
    ∃ c', Writes (sendAll ss) c c' (String.join (ss.map (·.write c.defaultNs)))
      ∧ c'.defaultNs = c.defaultNs := by
  induction ss generalizing c with
  | nil => exact ⟨c, .nothing c, rfl⟩
  | cons s ss ih =>
    obtain ⟨c', first, same⟩ := Writes.write works (c.written s)
    obtain ⟨c'', rest, same'⟩ := ih (first.works works)
    have act : send s c = Connection.write (c.written s) c := rfl
    rw [same] at rest
    rw [List.map_cons, String.join_cons, ← written_eq]
    exact ⟨c'', (first.of_apply_eq act).andThen rest, same'.trans same⟩

theorem writes_sendOpen (framing : Framing) (limit : Nat) (header : Header) :
    ∃ c, Writes (sendOpen header) (fresh framing limit) c (framing.openText header)
      ∧ c.defaultNs = framing.around header := by
  have works : ∀ k, (fresh framing limit).wire.trouble k = none := fun _ => rfl
  cases framing with
  | stream =>
    -- The default namespace is in force before the header is written.
    let named : Connection := { fresh .stream limit with defaultNs := header.defaultNs }
    obtain ⟨c, writes, same⟩ := @Writes.write named works header.toStreamOpen
    exact ⟨c, ⟨writes.done, writes.spoken, writes.reader, writes.works⟩, same⟩
  | webSocket =>
    have act : sendOpen header (fresh .webSocket limit) =
      Connection.write header.toWebSocketOpen (fresh .webSocket limit) := rfl
    obtain ⟨c, writes, same⟩ := Writes.write works header.toWebSocketOpen
    exact ⟨c, writes.of_apply_eq act, same⟩
  | standalone =>
    have act : sendOpen header (fresh .standalone limit) =
      (pure () : Act Connection ConnectionFault Unit) (fresh .standalone limit) := rfl
    exact ⟨_, (Writes.nothing _).of_apply_eq act, rfl⟩

theorem writes_sendClose {framing : Framing} {c : Connection} (framed : c.reader.framing = framing)
    (works : ∀ k, c.wire.trouble k = none) :
    ∃ c', Writes sendClose c c' framing.closeText ∧ c'.defaultNs = c.defaultNs := by
  cases framing with
  | stream =>
    have act : sendClose c = Connection.write Header.streamClose c := by
      unfold sendClose
      rw [framed]
    obtain ⟨c', writes, same⟩ := Writes.write works Header.streamClose
    exact ⟨c', writes.of_apply_eq act, same⟩
  | webSocket =>
    have act : sendClose c = Connection.write Header.webSocketClose c := by
      unfold sendClose
      rw [framed]
    obtain ⟨c', writes, same⟩ := Writes.write works Header.webSocketClose
    exact ⟨c', writes.of_apply_eq act, same⟩
  | standalone =>
    have act : sendClose c = (pure () : Act Connection ConnectionFault Unit) c := by
      unfold sendClose
      rw [framed]
      rfl
    exact ⟨c, (Writes.nothing c).of_apply_eq act, rfl⟩

theorem writes_speak (framing : Framing) (limit : Nat) (header : Header) (ss : List Stanza) :
    ∃ c, Writes (speak header ss) (fresh framing limit) c
        (framing.openText header ++ (String.join (ss.map (·.write (framing.around header)))
          ++ framing.closeText))
      ∧ c.defaultNs = framing.around header := by
  obtain ⟨c, opens, around⟩ := writes_sendOpen framing limit header
  have works : ∀ k, c.wire.trouble k = none := opens.works fun _ => rfl
  obtain ⟨c', sends, around'⟩ := writes_sendAll works ss
  have framed : c'.reader.framing = framing := by
    rw [sends.reader, opens.reader]
    rfl
  obtain ⟨c'', closes, around''⟩ := writes_sendClose framed (sends.works works)
  rw [around] at sends around'
  exact ⟨c'', opens.andThen (sends.andThen closes), around''.trans around'⟩

theorem not_mark (framing : Framing) (header : Header) {ss : List Stanza} :
    ¬ Reader.byteOrderMark <+: Utf8.encode (framing.openText header
      ++ (String.join (ss.map (·.write (framing.around header))) ++ framing.closeText)) := by
  cases framing with
  | stream =>
    exact Reader.not_mark_of_beginsTag (header.beginsTag_toStreamOpen.append _)
  | webSocket =>
    exact Reader.not_mark_of_beginsTag (header.beginsTag_toWebSocketOpen.append _)
  | standalone =>
    cases ss with
    | nil =>
      intro mark
      exact absurd (List.prefix_nil.1 mark) (by decide)
    | cons s ss =>
      have opens : Framing.openText .standalone header = "" := rfl
      rw [opens, String.empty_append, List.map_cons, String.join_cons, String.append_assoc]
      exact Reader.not_mark_of_beginsTag ((s.beginsTag_write none).append _)

/-- What we write, the other side reads: in every framing the header, the stanzas in order and the
close come out of one push of the whole text, and nothing is left over. -/
theorem push_speak (framing : Framing) (limit limit' : Nat) {header : Header} {ss : List Stanza}
    (named : framing = .stream → header.defaultNs.isSome) (plain : ∀ s ∈ ss, Plain s)
    (other : framing = .webSocket → ∀ s ∈ ss, s.ns ≠ Namespace.framing)
    (fits : ∀ s ∈ ss,
      (Utf8.encode ((speak header ss (fresh framing limit)).2.written s)).length ≤ limit') :
    (speak header ss (fresh framing limit)).1 = .ready () ∧
      let pushed := (Reader.fresh framing limit').push
        (Utf8.encode (speak header ss (fresh framing limit)).2.spoken)
      pushed.2 = heard framing header ss ∧ pushed.1.fault = none ∧ pushed.1.depth = 0
        ∧ pushed.1.kept = [] ∧ (pushed.1.finished ↔ framing ≠ .standalone) := by
  obtain ⟨c, writes, around⟩ := writes_speak framing limit header ss
  rw [writes.done] at fits ⊢
  have fits' : ∀ s ∈ ss, (Utf8.encode (s.write (framing.around header))).length ≤ limit' := by
    intro s h
    rw [← around, ← written_eq]
    exact fits s h
  obtain ⟨r, takes, last⟩ := Reader.takes_stream framing limit' named plain other fits'
  have kept : r.kept = [] := takes.setting.kept
  have text : c.spoken = _ := writes.spoken.trans (String.empty_append ..)
  have pushed := takes.push rfl rfl (not_mark framing header)
  dsimp only
  rw [text, pushed]
  refine ⟨rfl, rfl, last.ready, Reader.depth_ended last, kept, last.finished_iff.trans ?_⟩
  cases framing <;> simp [Framing.ended]

def greeting : Stanza where
  name := "message"
  ns := Namespace.client
  prefixes := [("p", "urn:p&q")]
  attrs := [("to", "a<b"), ("p:k", "\"it's\"")]
  lang := some "en"
  children := [{ name := "body", text := some " 1 > 0\n" }]

theorem plain_greeting : Plain greeting := by
  have body : Plain { name := "body", text := some " 1 > 0\n" } := by
    refine ⟨⟨by decide, ?_, by decide, by decide, ?_⟩, ?_⟩
    · intro key h
      cases h
    · intro text h
      cases h
      decide
    · intro child h
      cases h
  refine ⟨⟨by decide, ?_, by decide, by decide, ?_⟩, ?_⟩
  · intro key h
    have qualified : PlainKey ("p" ++ ":" ++ "k") :=
      .qualified (by decide) (by decide) (by decide) (by decide)
    have keys : greeting.attrs.keys = ["to", "p:k"] := rfl
    rw [keys, List.mem_cons, List.mem_singleton] at h
    rcases h with rfl | rfl
    · exact .name (by decide) (by decide)
    · exact qualified
  · intro text h
    cases h
  · intro child h
    rw [List.mem_singleton.1 h]
    exact body

theorem push_speak_greeting :
    (Framing.stream = .stream → (Header.client "a&b").defaultNs.isSome)
      ∧ (∀ s ∈ [greeting, greeting], Plain s)
      ∧ (Framing.stream = .webSocket → ∀ s ∈ [greeting, greeting], s.ns ≠ Namespace.framing)
      ∧ (∀ s ∈ [greeting, greeting], (Utf8.encode ((speak (Header.client "a&b") [greeting, greeting]
          (fresh .stream 0)).2.written s)).length ≤ 180)
      ∧ (speak (Header.client "a&b") [greeting, greeting] (fresh .stream 0)).1 = .ready () ∧
        let pushed := (Reader.fresh .stream 180).push (Utf8.encode
          (speak (Header.client "a&b") [greeting, greeting] (fresh .stream 0)).2.spoken)
        pushed.2 = heard .stream (Header.client "a&b") [greeting, greeting] ∧ pushed.1.fault = none
          ∧ pushed.1.depth = 0 ∧ pushed.1.kept = []
          ∧ (pushed.1.finished ↔ Framing.stream ≠ .standalone) := by
  have named : Framing.stream = .stream → (Header.client "a&b").defaultNs.isSome := fun _ => rfl
  have plain : ∀ s ∈ [greeting, greeting], Plain s := by
    intro s h
    simp only [List.mem_cons, List.not_mem_nil, or_false, or_self] at h
    rw [h]
    exact plain_greeting
  have other : Framing.stream = .webSocket →
      ∀ s ∈ [greeting, greeting], s.ns ≠ Namespace.framing := by
    intro h
    cases h
  have fits : ∀ s ∈ [greeting, greeting], (Utf8.encode ((speak (Header.client "a&b")
      [greeting, greeting] (fresh .stream 0)).2.written s)).length ≤ 180 := by decide +kernel
  exact ⟨named, plain, other, fits, push_speak .stream 0 180 named plain other fits⟩

example : greeting.write (some Namespace.client) =
    "<message xmlns:p='urn:p&amp;q' to='a&lt;b' p:k='&quot;it&apos;s&quot;' xml:lang='en'>"
      ++ "<body xmlns=''> 1 &gt; 0\n</body></message>" := by
  decide +kernel

end XmppStream.Connection
