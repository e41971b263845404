import XmppStream.Proofs.Connection.Frames
import XmppStream.Proofs.Connection.Outbound
import XmppStream.Proofs.Connection.Receiving
import XmppStream.Proofs.Reader.Stacks
import XmppStream.Session.Login

/-! Opening a stream: our header is written, and then the peer's header and its features are read. -/

namespace XmppStream

namespace Act

variable {σ ε α β : Type}

theorem discard_bind (act : Act σ ε α) (next : Unit → Act σ ε β) :
    (discard act >>= next) = act >>= fun _ => next () := by
  funext s
  rw [bind_apply, bind_apply, andThen, andThen]
  have quiet : (discard act : Act σ ε Unit) s = act.andThen (fun _ => pure ()) s := rfl
  rw [quiet, andThen]
  obtain ⟨outcome, s'⟩ := act s
  cases outcome <;> rfl

theorem ready_of_bind {act : Act σ ε α} {next : α → Act σ ε β} {s s'' : σ} {b : β}
    (h : (act >>= next) s = (.ready b, s'')) :
    ∃ a s', act s = (.ready a, s') ∧ next a s' = (.ready b, s'') := by
  rw [bind_apply, andThen] at h
  split at h
  · next a s' first => exact ⟨a, s', first, h⟩
  · cases h
  · cases h

theorem mapFault_of_ready {φ : Type} {act : Act σ ε α} {s s' : σ} {a : α}
    (h : act s = (.ready a, s')) (f : ε → φ) : act.mapFault f s = (.ready a, s') := by
  rw [mapFault, h]
  rfl

theorem ready_of_mapFault {φ : Type} {act : Act σ ε α} {s s' : σ} {a : α} {f : ε → φ}
    (h : act.mapFault f s = (.ready a, s')) : act s = (.ready a, s') := by
  rw [mapFault] at h
  generalize act s = result at h ⊢
  obtain ⟨outcome, last⟩ := result
  cases outcome <;> cases h
  rfl

end Act

namespace Connection

structure Wrote (c : Connection) (texts : List String) (c' : Connection) : Prop where
  wire : c'.wire = { c.wire with
    arrivals := c'.wire.arrivals
    writes := c.wire.writes + texts.length
    sent := texts.reverse ++ c.wire.sent }
  defaultNs : c'.defaultNs = c.defaultNs
  reset : c'.reader.reset = c.reader.reset

namespace Wrote

variable {c c' c'' : Connection} {texts more : List String}

theorem refl (c : Connection) : Wrote c [] c := ⟨rfl, rfl, rfl⟩

theorem trans (h : Wrote c texts c') (h' : Wrote c' more c'') : Wrote c (texts ++ more) c'' := by
  refine ⟨?_, h'.defaultNs.trans h.defaultNs, h'.reset.trans h.reset⟩
  rw [h'.wire, h.wire, List.length_append, List.reverse_append, List.append_assoc, Nat.add_assoc]

theorem works (h : Wrote c texts c') (works : c.Works) : c'.Works := by
  intro k
  rw [h.wire]
  exact works k

theorem textsTo (h : Wrote c texts c') : c.textsTo c' = texts := by
  unfold Connection.textsTo
  rw [h.wire]
  dsimp only
  rw [List.length_append, Nat.add_sub_cancel, List.take_left, List.reverse_reverse]

theorem reset_eq (h : Wrote c texts c') : c'.reset =
    { wire := { c.wire with
        arrivals := c'.wire.arrivals
        writes := c.wire.writes + texts.length
        sent := texts.reverse ++ c.wire.sent }
      reader := c.reader.reset
      defaultNs := c.defaultNs } := by
  unfold Connection.reset
  rw [h.reset, h.defaultNs, h.wire]

end Wrote

theorem wrote_foldl_deliver (events : List Event) (c : Connection) :
    Wrote c [] (events.foldl deliver c) := by
  induction events generalizing c with
  | nil => exact .refl c
  | cons e events ih =>
    have one : Wrote c [] (c.deliver e) := by cases e <;> exact ⟨rfl, rfl, rfl⟩
    exact one.trans (ih _)

theorem wrote_fill (c : Connection) : Wrote c [] c.fill.2 := by
  rw [fill]
  split
  · split <;> exact ⟨rfl, rfl, rfl⟩
  · exact ⟨rfl, rfl, rfl⟩
  · next data arrivals _ =>
    have read : Wrote c [] { c.setArrivals arrivals with reader := (c.reader.push data).1 } :=
      ⟨rfl, rfl, c.reader.reset_push data⟩
    exact read.trans (wrote_foldl_deliver _ _)

theorem await_keeps {α : Type} {take? : Connection → Option (α × Connection)}
    {P : Connection → Prop} (reads : ∀ c, P c → P c.fill.2)
    (takes : ∀ c a c', P c → take? c = some (a, c') → P c') {c : Connection} (start : P c) :
    P (await take? c).2 := by
  have step (c c' : Connection) (holds : P c) (_ : c.peerClosed = false)
      (read : c.fill = (.ready (), c')) : P c' := by
    have holds' := reads c holds
    rwa [read] at holds'
  obtain ⟨c', holds, waits⟩ := await_cases take? step start
  have holds' := reads c' holds
  generalize await take? c = result at waits
  cases waits with
  | found there => exact takes _ _ _ holds there
  | closed => exact holds
  | failed _ _ read => rwa [read] at holds'
  | waiting _ _ read => rwa [read] at holds'

section
variable {c c' : Connection}

theorem takeHeader?_eq_some {header : Header} (there : c.takeHeader? = some (header, c')) :
    c.header = some header ∧ c' = { c with header := none } := by
  rw [takeHeader?, Option.map_eq_some_iff] at there
  obtain ⟨_, there, same⟩ := there
  cases same
  exact ⟨there, rfl⟩

theorem takeStanza?_eq_some {s : Stanza} (there : c.takeStanza? = some (s, c')) :
    ∃ inbox, c.inbox = s :: inbox ∧ c' = { c with inbox } := by
  rw [takeStanza?] at there
  split at there
  · cases there
  · next inbox waiting =>
    cases there
    exact ⟨inbox, waiting, rfl⟩

theorem wrote_recv (c : Connection) : Wrote c [] c.recv.2 := by
  refine await_keeps (fun c' h => h.trans (wrote_fill c')) (fun c' s c'' h there => ?_) (.refl c)
  obtain ⟨inbox, -, rfl⟩ := takeStanza?_eq_some there
  exact ⟨h.wire, h.defaultNs, h.reset⟩

theorem wrote_recvOpen (c : Connection) : Wrote c [] c.recvOpen.2 := by
  refine await_keeps (fun c' h => h.trans (wrote_fill c')) (fun c' s c'' h there => ?_) (.refl c)
  obtain ⟨-, rfl⟩ := takeHeader?_eq_some there
  exact ⟨h.wire, h.defaultNs, h.reset⟩

theorem gives_recvOpen (c : Connection) : Gives c [] c.recvOpen.2 := by
  refine await_keeps (fun c' h => h.trans (gives_fill c')) (fun c' s c'' h there => ?_) (.refl c)
  obtain ⟨-, rfl⟩ := takeHeader?_eq_some there
  exact h.trans (.of_same rfl rfl rfl)

def writing (c : Connection) (text : String) : Connection :=
  { c with wire := { c.wire with writes := c.wire.writes + 1, sent := text :: c.wire.sent } }

theorem write_of_works (works : c.Works) (text : String) :
    write text c = (.ready (), c.writing text) := by
  unfold write Wire.write
  rw [works]
  rfl

theorem wrote_writing (c : Connection) (text : String) : Wrote c [text] (c.writing text) :=
  ⟨rfl, rfl, rfl⟩

theorem send_eq (works : c.Works) (s : Stanza) :
    send s c = (.ready (), c.writing (s.write c.defaultNs)) := by
  rw [send, written_eq, write_of_works works]

def named (c : Connection) (header : Header) : Connection :=
  { c with defaultNs := if c.reader.framing = .stream then header.defaultNs else c.defaultNs }

theorem textsTo_named {header : Header} {texts : List String} (h : Wrote (c.named header) texts c') :
    c.textsTo c' = texts := h.textsTo

theorem sendOpen_eq (works : c.Works) (framed : c.reader.framing ≠ .standalone) (header : Header) :
    sendOpen header c =
      (.ready (), (c.named header).writing (c.reader.framing.openText header)) := by
  unfold sendOpen named
  cases framing : c.reader.framing with
  | stream => exact write_of_works (c := { c with defaultNs := header.defaultNs }) works _
  | webSocket => exact write_of_works works _
  | standalone => exact absurd framing framed

theorem openStream_eq (works : c.Works) (framed : c.reader.framing ≠ .standalone) (header : Header) :
    openStream header c = (recvOpen >>= fun _ => recv >>= expectFeatures : Act _ _ _)
      ((c.named header).writing (c.reader.framing.openText header)) := by
  rw [openStream, Act.bind_of_ready (sendOpen_eq works framed header)]
  generalize same : (c.named header).writing (c.reader.framing.openText header) = c'
  have framed' : c'.reader.framing ≠ .standalone := by
    rw [← same]
    exact framed
  have look : (Act.look (·.reader.framing) : Act Connection ConnectionFault Framing) c' =
      (.ready c'.reader.framing, c') := rfl
  rw [Act.bind_of_ready look]
  dsimp only
  rw [if_pos framed', Act.discard_bind]

theorem openStream_ready (works : c.Works) (framed : c.reader.framing ≠ .standalone) {header : Header}
    {features : Stanza} (opened : openStream header c = (.ready features, c')) :
    features.kind = .streamFeatures ∧ ∃ known c'',
      ((c.named header).writing (c.reader.framing.openText header)).recvOpen = (.ready known, c'')
        ∧ c''.recv = (.ready features, c') := by
  rw [openStream_eq works framed] at opened
  obtain ⟨known, c'', header, opened⟩ := Act.ready_of_bind opened
  obtain ⟨s, c₁, received, expected⟩ := Act.ready_of_bind opened
  rw [expectFeatures] at expected
  split_ifs at expected with kind
  · cases expected
    exact ⟨kind, known, c'', header, received⟩
  · cases expected

theorem wrote_openStream (works : c.Works) (framed : c.reader.framing ≠ .standalone)
    (header : Header) :
    Wrote (c.named header) [c.reader.framing.openText header] (openStream header c).2 := by
  rw [openStream_eq works framed]
  have quiet {a b c : Connection} (h : Wrote a [] b) (h' : Wrote b [] c) : Wrote a [] c := h.trans h'
  refine (wrote_writing (c.named header) _).trans ?_
  refine Act.bind_keeps (R := (Wrote · [] ·)) quiet (wrote_recvOpen _) fun _ c' => ?_
  refine Act.bind_keeps (R := (Wrote · [] ·)) quiet (wrote_recv _) fun s c' => ?_
  rw [expectFeatures]
  split_ifs
  · exact .refl c'
  · exact .refl c'

theorem gives_openStream (works : c.Works) (framed : c.reader.framing ≠ .standalone)
    {header : Header} {features : Stanza} (opened : openStream header c = (.ready features, c')) :
    Gives c [features] c' := by
  obtain ⟨-, known, c'', header', received⟩ := openStream_ready works framed opened
  have first := gives_recvOpen ((c.named header).writing (c.reader.framing.openText header))
  have second := gives_recv c''
  rw [header'] at first
  rw [received] at second
  have start : Gives c [] ((c.named header).writing (c.reader.framing.openText header)) :=
    .of_same rfl rfl rfl
  exact start.trans (first.trans second)

end

end Connection

end XmppStream
