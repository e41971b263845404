import XmppStream.Connection.Fault

/-! Acts of a conversation with a peer. An act changes the state of this side and ends in one of
three ways: with a value, with a fault, or waiting for something that the peer has not sent. -/

namespace XmppStream

inductive Awaited (ε α : Type) where
  | ready (value : α)
  | failed (why : ε)
  | waiting
deriving DecidableEq, Repr

namespace Awaited

variable {ε φ α : Type}

def mapFault (f : ε → φ) : Awaited ε α → Awaited φ α
  | ready a => ready a
  | failed e => failed (f e)
  | waiting => waiting

def within (late : ε) : Awaited ε α → Awaited ε α
  | waiting => failed late
  | done => done

end Awaited

/-- A state changed on the way stays changed, also when the act fails or waits. -/
def Act (σ ε α : Type) : Type := σ → Awaited ε α × σ

namespace Act

variable {σ τ ε φ α β : Type}

def done (a : α) : Act σ ε α := fun s => (.ready a, s)

def andThen (act : Act σ ε α) (next : α → Act σ ε β) : Act σ ε β := fun s =>
  match act s with
  | (.ready a, s) => next a s
  | (.failed e, s) => (.failed e, s)
  | (.waiting, s) => (.waiting, s)

instance : Monad (Act σ ε) where
  pure := done
  bind := andThen

def fail (why : ε) : Act σ ε α := fun s => (.failed why, s)

def update (f : σ → α × σ) : Act σ ε α := fun s => (.ready (f s).1, (f s).2)

def look (f : σ → α) : Act σ ε α := fun s => (.ready (f s), s)

def mapFault (f : ε → φ) (act : Act σ ε α) : Act σ φ α := fun s =>
  ((act s).1.mapFault f, (act s).2)

def within (late : ε) (act : Act σ ε α) : Act σ ε α := fun s =>
  ((act s).1.within late, (act s).2)

def on (part : τ → σ) (put : τ → σ → τ) (act : Act σ ε α) : Act τ ε α := fun t =>
  ((act (part t)).1, put t (act (part t)).2)

@[simp]
theorem pure_apply (a : α) (s : σ) : (pure a : Act σ ε α) s = (.ready a, s) := rfl

theorem bind_apply (act : Act σ ε α) (next : α → Act σ ε β) (s : σ) :
    (act >>= next) s = act.andThen next s := rfl

theorem bind_of_ready {act : Act σ ε α} {s s' : σ} {a : α} (h : act s = (.ready a, s'))
    (next : α → Act σ ε β) : (act >>= next) s = next a s' := by
  rw [bind_apply, andThen, h]

theorem bind_keeps {R : σ → σ → Prop} (trans : ∀ {a b c}, R a b → R b c → R a c)
    {act : Act σ ε α} {next : α → Act σ ε β} {s : σ} (first : R s (act s).2)
    (then_ : ∀ a s', R s' (next a s').2) : R s ((act >>= next) s).2 := by
  rw [bind_apply, andThen]
  split
  · next a s' h =>
    rw [h] at first
    exact trans first (then_ a s')
  · next h =>
    rw [h] at first
    exact first
  · next h =>
    rw [h] at first
    exact first

end Act

structure Channel (σ : Type) where
  send : Stanza → Act σ ConnectionFault Unit
  recv : Act σ ConnectionFault Stanza

end XmppStream
