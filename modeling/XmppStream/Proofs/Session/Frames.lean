import Mathlib.Tactic.SplitIfs
import XmppStream.Proofs.Management.Conservation
import XmppStream.Proofs.Session.Calls

/-! The frames that calls on a session write, over a transport that takes every write. -/

namespace XmppStream

namespace Stanza

def countedIn (ss : List Stanza) : Nat := ss.countP fun s => !s.isManagement

theorem countedIn_append (ss ts : List Stanza) :
    countedIn (ss ++ ts) = countedIn ss + countedIn ts := List.countP_append

theorem countedIn_cons (n : Nat) (s : Stanza) (ss : List Stanza) :
    n + countedIn (s :: ss) = (if s.isManagement then n else n + 1) + countedIn ss := by
  unfold countedIn
  rw [List.countP_cons]
  cases s.isManagement with
  | true => rfl
  | false =>
    change n + (ss.countP (fun s => !s.isManagement) + 1) = n + 1 + _
    omega

end Stanza

namespace Session

variable {s : Session}

def Call.frames (call : Call) (s : Session) : List Stanza :=
  match call with
  | send stanza => stanza :: if (enter stanza s).1 then [Ledger.requestFrame] else []
  | recv => (Call.recv.takings s).filterMap Taking.reply?
  | requestAck => if s.ledger = none then [] else [Ledger.requestFrame]
  | enable resume =>
    if s.ledger = none ∧ s.offersManagement then [Ledger.enableFrame resume] else []
  | arrive _ => []

/-- The texts that the receiving calls among `calls` write, in order. -/
def recvTexts (s : Session) (calls : List Call) : List String :=
  (s.history calls).flatMap fun (call, s) =>
    if call = .recv then s.connection.textsTo (call.perform s).connection else []

theorem reply?_frame (s : Stanza) (l : Ledger) :
    (Taking.frame s l).reply? = if s.kind = .smRequest then some l.ackFrame else none := by
  rw [Taking.reply?]
  rcases l.handle_cases s with ⟨count, ack, -, handled⟩ | ⟨ack, -, -, why, handled⟩
    | ⟨request, handled⟩ | ⟨-, other, handled⟩
  · rw [handled, if_neg (by rw [ack]; decide)]
  · rw [handled, if_neg (by rw [ack]; decide)]
  · rw [handled, if_pos request]
  · rw [handled, if_neg other]

theorem connected_of_works (works : s.connection.Works) (frame : Stanza) :
    ∃ c, connected (Connection.send frame) s = (.ready (), s.setConnection c)
      ∧ s.connection.Sends [frame] c := by
  obtain ⟨c, sent, sends⟩ := Connection.send_of_works works frame
  refine ⟨c, ?_, sends⟩
  unfold connected Act.on Act.mapFault
  dsimp only
  rw [sent]
  rfl

theorem enter_setConnection (stanza : Stanza) (s : Session) (c : Connection) :
    enter stanza (s.setConnection c) =
      ((enter stanza s).1, (enter stanza s).2.setConnection c) := by
  obtain ⟨connection, features, policy, ledger, backlog⟩ := s
  cases ledger with
  | none => rfl
  | some l =>
    dsimp only [enter, setConnection]
    split_ifs <;> rfl

theorem send_of_ready {stanza : Stanza} {c : Connection}
    (written : connected (Connection.send stanza) s = (.ready (), s.setConnection c)) :
    send stanza s =
      if (enter stanza s).1 then
        connected (Connection.send Ledger.requestFrame) ((enter stanza s).2.setConnection c)
      else (.ready (), (enter stanza s).2.setConnection c) := by
  have entered : (Act.update (enter stanza) : Act Session Fault Bool) (s.setConnection c) =
      (.ready (enter stanza s).1, (enter stanza s).2.setConnection c) := by
    rw [Act.update, enter_setConnection]
  rw [send, Act.bind_of_ready written, Act.bind_of_ready entered]
  cases (enter stanza s).1 <;> rfl

theorem send_of_works (works : s.connection.Works) (stanza : Stanza) :
    ∃ c, send stanza s = (.ready (), (enter stanza s).2.setConnection c)
      ∧ s.connection.Sends ((Call.send stanza).frames s) c := by
  obtain ⟨c, first, sends⟩ := connected_of_works works stanza
  rw [send_of_ready first, Call.frames]
  cases due : (enter stanza s).1 with
  | false => exact ⟨c, rfl, sends⟩
  | true =>
    have works' : ((enter stanza s).2.setConnection c).connection.Works := sends.works
    obtain ⟨c', second, requests⟩ := connected_of_works works' Ledger.requestFrame
    exact ⟨c', second, sends.trans requests⟩

theorem requestAck_of_works (works : s.connection.Works) :
    ∃ c, (requestAck s).2 = s.setConnection c
      ∧ s.connection.Sends (Call.requestAck.frames s) c := by
  rw [Call.frames, requestAck, Act.bind_apply, Act.andThen, Act.look]
  dsimp only
  cases s.ledger with
  | none => exact ⟨s.connection, rfl, .refl works⟩
  | some l =>
    obtain ⟨c, requested, sends⟩ := connected_of_works works Ledger.requestFrame
    exact ⟨c, congrArg Prod.snd requested, sends⟩

theorem asked?_of_works {resume : Bool} (works : s.connection.Works) (off : s.ledger = none)
    (offers : s.offersManagement) :
    ∃ c, asked? resume s = some (s.setConnection c)
      ∧ s.connection.Sends [Ledger.enableFrame resume] c := by
  obtain ⟨c, asked, sends⟩ := connected_of_works works (Ledger.enableFrame resume)
  refine ⟨c, ?_, sends⟩
  rw [asked?, if_pos ⟨off, offers⟩, asked]

/-- Over a transport that takes every write, each call writes its frames and nothing else. -/
theorem sends_perform (call : Call) (works : s.connection.Works) :
    s.connection.Sends (call.frames s) (call.perform s).connection := by
  cases call with
  | send stanza =>
    obtain ⟨c, sent, sends⟩ := send_of_works works stanza
    rw [Call.perform, sent]
    exact sends
  | recv =>
    rcases recv_cases s with ⟨stanza, backlog, -, first, nothing⟩ | ⟨-, fresh, taken⟩
    · rw [Call.perform, Call.frames, nothing, first]
      exact .refl works
    · rw [Call.perform, Call.frames, taken, fresh]
      exact (took_recvFresh s).1.sends works
  | requestAck =>
    obtain ⟨c, requested, sends⟩ := requestAck_of_works works
    rw [Call.perform, requested]
    exact sends
  | enable resume =>
    rw [Call.perform, Call.frames]
    split_ifs with may
    · obtain ⟨c, asked, sends⟩ := @asked?_of_works s resume works may.1 may.2
      have asks := asks_of_asked? asked
      have waits := (took_awaitEnabled asks.waits).sends sends.works
      rw [reply_awaitTakings] at waits
      rw [asks.awaits]
      exact sends.trans waits
    · rw [enable_eq_self may]
      exact .refl works
  | arrive arrival => exact ⟨rfl, rfl, works⟩

end Session
end XmppStream
