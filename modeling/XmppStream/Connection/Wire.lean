import XmppStream.Text.Utf8

/-! The transport under a connection, as far as a client can see it: what the peer's side will
deliver to reads, and what was written. -/

namespace XmppStream

inductive Arrival where
  | bytes (data : Bytes)
  | fault (detail : String)
deriving DecidableEq, Repr

namespace Arrival

def readSize : Nat := 8192

/-- The next read: it takes bytes of one arrival alone, and skips arrivals of none. -/
def next : List Arrival → Option (Except String Bytes) × List Arrival
  | [] => (none, [])
  | .fault detail :: r => (some (.error detail), r)
  | .bytes data :: r =>
    if data = [] then next r
    else (some (.ok (data.take readSize)),
      if data.drop readSize = [] then r else .bytes (data.drop readSize) :: r)

def weight : Arrival → Nat
  | .bytes data => data.length + 1
  | .fault _ => 1

def load : List Arrival → Nat
  | [] => 0
  | a :: r => a.weight + load r

theorem load_next_lt {as rest : List Arrival} {read : Except String Bytes}
    (h : next as = (some read, rest)) : load rest < load as := by
  fun_induction next as with
  | case1 => cases h
  | case2 => cases h; simp [load, weight]
  | case3 r ih =>
    have := ih h
    rw [load]
    omega
  | case4 data r hne =>
    have pos : 0 < data.length := List.length_pos_iff.2 hne
    cases h
    split
    · rw [load, weight]
      omega
    · simp only [load, weight, List.length_drop, readSize]
      omega

end Arrival

structure Wire where
  arrivals : List Arrival := []
  ended : Bool := false
  /-- The trouble, if any, of each write by its number. -/
  trouble : Nat → Option String := fun _ => none
  writes : Nat := 0
  /-- The texts written, the latest first. -/
  sent : List String := []

def Wire.write (w : Wire) (text : String) : Option String × Wire :=
  match w.trouble w.writes with
  | some detail => (some detail, { w with writes := w.writes + 1 })
  | none => (none, { w with writes := w.writes + 1, sent := text :: w.sent })

end XmppStream
