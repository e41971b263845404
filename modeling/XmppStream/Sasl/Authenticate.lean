import XmppStream.Connection.Act
import XmppStream.Sasl.Exchange

/-! A whole authentication exchange over a channel: one frame of the client, then one of the server,
until the exchange ends. A signal to shut down is looked for before each of them. -/

namespace XmppStream
namespace Exchange

theorem answersLeft_of_answer {e : Exchange} {found : Table} {frame : Stanza} {phase : AuthPhase}
    (h : e.answer found = .ok (frame, phase)) : phase.answersLeft < e.phase.answersLeft := by
  rw [answer] at h
  split at h
  · cases h
  · cases h
  · next hp =>
    split at h <;> cases h
    rw [hp]
    exact Nat.one_lt_two
  · next hp =>
    split at h <;> cases h
    rw [hp]
    exact Nat.zero_lt_one
  · cases h

theorem answersLeft_of_handle {e e' : Exchange} {frame next : Stanza}
    (h : e.handle frame = (.ok (.send next), e')) :
    e'.phase.answersLeft < e.phase.answersLeft := by
  rw [handle] at h
  split at h
  · cases h
  split at h
  · cases h
  split at h
  · cases h
  next hr =>
  cases h
  rw [react] at hr
  split at hr
  · cases hr
  · split at hr
    · cases hr
    · next hc =>
      cases hr
      rw [challenged] at hc
      split at hc
      · cases hc
      split at hc
      · cases hc
      exact answersLeft_of_answer hc
  · split at hr <;> cases hr
  · cases hr

end Exchange

namespace Authenticate

variable {σ τ : Type}

def lost (why : ConnectionFault) : AuthFault := .transport why.message

def giveUpIf (shutdown : Bool) : Act σ AuthFault Unit :=
  if shutdown then Act.fail .cancelled else pure ()

/-- Sends a frame and takes the server's next. The signal is looked for twice, and `looks` counts
the times before. -/
def round (channel : Channel σ) (shutdown : Nat → Bool) (looks : Nat) (frame : Stanza) :
    Act σ AuthFault Stanza := do
  giveUpIf (shutdown looks)
  (channel.send frame).mapFault lost
  giveUpIf (shutdown (looks + 1))
  channel.recv.mapFault lost

def converse (channel : Channel σ) (shutdown : Nat → Bool) (looks : Nat) (e : Exchange)
    (frame : Stanza) : Act σ AuthFault Unit := fun s =>
  match round channel shutdown looks frame s with
  | (.failed why, s) => (.failed why, s)
  | (.waiting, s) => (.waiting, s)
  | (.ready reply, s) =>
    match _h : e.handle reply with
    | (.error why, _) => (.failed why, s)
    | (.ok .done, _) => (.ready (), s)
    | (.ok (.send next), e) => converse channel shutdown (looks + 2) e next s
termination_by e.phase.answersLeft
decreasing_by exact Exchange.answersLeft_of_handle _h

end Authenticate

/-- Authenticates with one of the mechanisms offered. Nothing is sent where none can be used. -/
def authenticate {σ τ : Type} (channel : Channel σ) (shutdown : Nat → Bool) (e : Exchange)
    (offered : List String) (source : CredentialSource τ) (t : τ) : Act σ AuthFault Unit :=
  match e.start offered source t with
  | (.error why, _, _) => Act.fail why
  | (.ok frame, e, _) => Authenticate.converse channel shutdown 0 e frame

end XmppStream
