import XmppStream.Connection.Fault
import XmppStream.Text.Utf8

/-! Readers of the fields that TLS messages are made of. From this module up to that of
`Handshake.attempt` is what stands for a TLS client library: the server's side of a handshake is read
as such a library reads it, to tell how the handshake fails. An upgrade takes its handshake as a
parameter, `TlsClient.handshake`, so that what is proved of it holds with any library. -/

namespace XmppStream

/-- Reads a value from the front of bytes, or gives the kind of trouble that a complaint about the
bytes tells. -/
abbrev Scan (α : Type) : Type := StateT Bytes (Except HandshakeClass) α

namespace Scan

variable {α : Type}

def refuse : Scan α := fun _ => .error .other

def check (holds : Bool) : Scan Unit := if holds then pure () else refuse

/-- A part of the bytes without which a complaint speaks of certificates. -/
def certified (scan : Scan α) : Scan α := fun bs => (scan bs).mapError fun _ => .certificate

def take (count : Nat) : Scan Bytes := fun bs =>
  if bs.length < count then .error .other else .ok (bs.take count, bs.drop count)

def rest : Scan Bytes := fun bs => .ok (bs, [])

def numberOf (bs : Bytes) : Nat := bs.foldl (fun n b => n * 256 + b.toNat) 0

def number (width : Nat) : Scan Nat := numberOf <$> take width

def field (width : Nat) : Scan Bytes := do take (← number width)

def nonempty (width : Nat) : Scan Bytes := do
  let bs ← field width
  check (bs ≠ [])
  return bs

def all (excess : HandshakeClass) (scan : Scan α) (bs : Bytes) : Except HandshakeClass α :=
  match scan bs with
  | .ok (a, []) => .ok a
  | .ok _ => .error excess
  | .error why => .error why

/-- Reads items up to the end of the bytes. Each is read in view of those before it, the latest
first, and takes some bytes. -/
def row (item : List α → Scan α) (before : List α) (bs : Bytes) : Except HandshakeClass (List α) :=
  if bs = [] then .ok before.reverse
  else
    match item before bs with
    | .error why => .error why
    | .ok (a, rest) =>
      if rest.length < bs.length then row item (a :: before) rest else .error .other
termination_by bs.length

def list (width : Nat) (item : Scan α) : Scan (List α) := do
  row (fun _ => item) [] (← field width)

theorem length_take {count : Nat} {bs taken rest : Bytes}
    (h : take count bs = .ok (taken, rest)) : taken.length = count ∧ bs = taken ++ rest := by
  rw [take] at h
  split at h
  · cases h
  · next hle =>
    cases h
    exact ⟨List.length_take_of_le (Nat.le_of_not_lt hle), (List.take_append_drop ..).symm⟩

end Scan
end XmppStream
