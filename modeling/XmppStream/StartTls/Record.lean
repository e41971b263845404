import XmppStream.Text.Utf8

/-! The records that bytes under TLS come in: a kind, a version, and a body after its length. They
are told apart, and refused, as a TLS client library does it. -/

namespace XmppStream

structure TlsRecord where
  kind : UInt8
  newest : Bool
  body : Bytes
deriving DecidableEq, Repr

namespace TlsRecord

def cipherChange : UInt8 := 20

def alert : UInt8 := 21

def handshake : UInt8 := 22

def applicationData : UInt8 := 23

def kinds : List UInt8 := [cipherChange, alert, handshake, applicationData, 24]

def bound : Nat := 18432

/-- Any version from SSL 3 on, the one before it, whose bytes are in the other order, and those over
datagrams. -/
def allowsVersion (major minor : UInt8) : Bool :=
  major = 3 || (major, minor) ∈ [(0, 2), (0xfe, 0xff), (0xfe, 0xfd), (0xfe, 0xfc)]

inductive Start where
  | whole (record : TlsRecord) (rest : Bytes)
  | part
  | unknown
deriving DecidableEq, Repr

def startOfBody (kind : UInt8) (newest : Bool) (size : Nat) (r : Bytes) : Start :=
  if size = 0 ∧ kind ≠ applicationData ∨ bound ≤ size then .unknown
  else if r.length < size then .part
  else .whole ⟨kind, newest, r.take size⟩ (r.drop size)

def start : Bytes → Start
  | [] => .part
  | kind :: r =>
    if kind ∉ kinds then .unknown
    else
      match r with
      | major :: minor :: r =>
        if !allowsVersion major minor then .unknown
        else
          match r with
          | high :: low :: r =>
            startOfBody kind ((major, minor) = (3, 4)) (high.toNat * 256 + low.toNat) r
          | _ => .part
      | _ => .part

theorem length_startOfBody_le {kind : UInt8} {newest : Bool} {size : Nat} {r rest : Bytes}
    {record : TlsRecord} (h : startOfBody kind newest size r = .whole record rest) :
    rest.length ≤ r.length := by
  rw [startOfBody] at h
  repeat' split at h
  all_goals cases h
  simp

theorem length_start_lt {bs rest : Bytes} {record : TlsRecord}
    (h : start bs = .whole record rest) : rest.length < bs.length := by
  rw [start.eq_def] at h
  repeat' split at h
  all_goals try cases h
  have := length_startOfBody_le h
  simp only [List.length_cons]
  omega

end TlsRecord
end XmppStream
