import XmppStream.Proofs.Connection.Inbound

/-! The frames that a connection writes, over a transport that takes every write. -/

namespace XmppStream.Connection

def Works (c : Connection) : Prop := ∀ k, c.wire.trouble k = none

def textsTo (c c' : Connection) : List String :=
  (c'.wire.sent.take (c'.wire.sent.length - c.wire.sent.length)).reverse

/-- From `c` to `c'` the connection writes these frames and nothing else. -/
structure Sends (c : Connection) (frames : List Stanza) (c' : Connection) : Prop where
  sent : c'.wire.sent = (frames.map c.written).reverse ++ c.wire.sent
  defaultNs : c'.defaultNs = c.defaultNs
  works : c'.Works

theorem written_congr {c c' : Connection} (h : c'.defaultNs = c.defaultNs) :
    c'.written = c.written := by
  funext s
  rw [written, written, h]

namespace Sends

variable {c c' c'' : Connection} {frames more : List Stanza}

theorem refl (works : c.Works) : Sends c [] c := ⟨rfl, rfl, works⟩

theorem trans (h : Sends c frames c') (h' : Sends c' more c'') : Sends c (frames ++ more) c'' := by
  refine ⟨?_, h'.defaultNs.trans h.defaultNs, h'.works⟩
  rw [h'.sent, h.sent, written_congr h.defaultNs, List.map_append, List.reverse_append,
    List.append_assoc]

theorem textsTo (h : Sends c frames c') : c.textsTo c' = frames.map c.written := by
  unfold Connection.textsTo
  rw [h.sent, List.length_append, Nat.add_sub_cancel, List.take_left, List.reverse_reverse]

end Sends

theorem send_of_works {c : Connection} (works : c.Works) (s : Stanza) :
    ∃ c', send s c = (.ready (), c') ∧ Sends c [s] c' := by
  refine ⟨(send s c).2, ?_, ?_, rfl, ?_⟩
  · unfold send write Wire.write
    rw [works]
  · unfold send write Wire.write
    rw [works]
    rfl
  · unfold send write Wire.write
    rw [works]
    exact works

theorem foldl_deliver_writes_nothing (events : List Event) {c : Connection} (works : c.Works) :
    Sends c [] (events.foldl deliver c) := by
  induction events generalizing c with
  | nil => exact .refl works
  | cons e events ih =>
    have one : Sends c [] (c.deliver e) := by cases e <;> exact ⟨rfl, rfl, works⟩
    exact one.trans (ih one.works)

theorem sends_fill {c : Connection} (works : c.Works) : Sends c [] c.fill.2 := by
  rw [fill]
  split
  · split <;> exact ⟨rfl, rfl, works⟩
  · exact ⟨rfl, rfl, works⟩
  · next data arrivals _ =>
    have read : Sends c [] { c.setArrivals arrivals with reader := (c.reader.push data).1 } :=
      ⟨rfl, rfl, works⟩
    exact read.trans (foldl_deliver_writes_nothing _ read.works)

theorem sends_refilled {c c' : Connection} (h : Refilled c c') (works : c.Works) : Sends c [] c' := by
  induction h with
  | refl c => exact .refl works
  | fill _ ih =>
    have read := sends_fill works
    exact read.trans (ih read.works)

theorem sends_recv {c : Connection} (works : c.Works) : Sends c [] c.recv.2 := by
  obtain ⟨c', refilled, ⟨s, inbox, waiting, taken⟩ | ⟨-, left⟩⟩ := recv_cases c
  · have read := sends_refilled refilled works
    have take : Sends c' [] { c' with inbox } := ⟨rfl, rfl, read.works⟩
    rw [taken]
    exact read.trans take
  · rw [left]
    exact sends_refilled refilled works

end XmppStream.Connection
