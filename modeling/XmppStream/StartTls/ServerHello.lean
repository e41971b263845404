import XmppStream.StartTls.Extension

/-! The hello of a TLS server, and what it agrees on with a client that knows the versions 1.2 and
1.3 of TLS and the group X25519. It stands for the check of a TLS client library that offers these
and no more. -/

namespace XmppStream

structure ServerHello where
  version : Nat
  random : Bytes
  suite : Nat
  compression : Nat
  extensions : Extensions

inductive Agreement where
  | clear (rsa status : Bool)
  | sealed
deriving DecidableEq, Repr

namespace ServerHello

open Scan

def sessionId : Scan Unit := do check ((← field 1).length ≤ 32)

def keyShare : Scan (Nat × Bytes) := do return (← number 2, ← nonempty 2)

def soleName : Scan Unit := do Scan.all .other (discard (nonempty 1)) (← field 2)

def hiddenConfigs : Scan Unit := discard (list 2 (do discard (number 2); field 2))

def rules : ExtensionRules where
  forms := [(0, pure ()), (5, pure ()), (11, discard (nonempty 1)), (16, soleName),
    (19, discard (certified (number 1))), (20, discard (certified (number 1))), (23, pure ()),
    (35, pure ()), (41, discard (number 2)), (42, pure ()), (43, discard (number 2)),
    (51, discard keyShare), (57, discard rest), (0xff01, discard (field 1)),
    (0xfe0d, hiddenConfigs)]

def read (version : Nat) (random : Bytes) : Scan ServerHello := do
  sessionId
  let suite ← number 2
  let compression ← number 1
  let extensions ← fun bs => if bs = [] then .ok ([], []) else rules.read bs
  return { version, random, suite, compression, extensions }

def retryMark : Bytes :=
  [0xcf, 0x21, 0xad, 0x74, 0xe5, 0x9a, 0x61, 0x11, 0xbe, 0x1d, 0x8c, 0x02, 0x1e, 0x65, 0xb8, 0x91,
    0xc2, 0xa2, 0x11, 0x16, 0x7a, 0xbb, 0x8c, 0x5e, 0x07, 0x9e, 0x09, 0xe2, 0xc8, 0xa8, 0x33, 0x9c]

def retryRules : ExtensionRules where
  forms := [(43, discard (number 2)), (44, discard (nonempty 2)), (51, discard (number 2)),
    (0xfe0d, discard rest)]
  unknown := refuse

def readRetry : Scan Unit := do
  sessionId
  discard (number 2)
  check ((← number 1) = 0)
  discard retryRules.read

def chosenVersion (h : ServerHello) : Nat :=
  if h.version = 0x0303 then ((h.extensions.lookup 43).map numberOf).getD h.version else h.version

def asked (domain : Bool) : List Nat :=
  (if domain then [0] else []) ++ [5, 10, 11, 13, 23, 35, 43, 45, 51]

def onlyHas (h : ServerHello) (kinds : List Nat) : Bool :=
  h.extensions.all fun (kind, _) => kinds.contains kind

/-- A server that knows version 1.3 of TLS and chooses 1.2 all the same marks the end of its random
bytes. -/
def downgradeMark : Bytes := [0x44, 0x4f, 0x57, 0x4e, 0x47, 0x52, 0x44, 0x01]

def suites : List (Nat × Bool) :=
  [(0xc02b, false), (0xc02c, false), (0xcca9, false), (0xc02f, true), (0xc030, true),
    (0xcca8, true)]

def agreeClear? (h : ServerHello) : Option Agreement :=
  if (h.extensions.lookup 43).isSome || h.random.drop 24 = downgradeMark then none
  else (suites.lookup h.suite).map fun rsa => .clear rsa (h.extensions.lookup 5).isSome

def sealedSuites : List Nat := [0x1301, 0x1302, 0x1303]

def fieldOrder : Nat :=
  57896044618658097711785492504343953926634992332820282019728792003956564819949

/-- Coordinates of the few points from which every key comes out as zero. -/
def weakPoints : List Nat :=
  [0, 1, fieldOrder - 1,
    325606250916557431795983626356110631294008115727848805560023387167927233504,
    39382357235489614581723061780553021112529911719440698176882885853963445705823]

/-- A coordinate on the curve, the lowest byte first, of which the highest bit does not count. -/
def isStrongPoint (bs : Bytes) : Bool :=
  bs.length = 32
    && !weakPoints.contains (numberOf bs.reverse % (fieldOrder + 19) % fieldOrder)

/-- The server's share of the key must be there and of the group that the client sent a share of.
Nothing more of the message after the hello may have come. -/
def agreeSealed? (aligned : Bool) (h : ServerHello) : Option Agreement :=
  let shared : Bool := match h.extensions.lookup 51 with
    | none => false
    | some share => share.take 2 = [0x00, 0x1d] && isStrongPoint (share.drop 4)
  if sealedSuites.contains h.suite && h.onlyHas [43, 51] && shared && aligned then some .sealed
  else none

def agree? (domain aligned : Bool) (h : ServerHello) : Option Agreement :=
  let points := (h.extensions.lookup 11).getD [1, 0]
  if h.compression ≠ 0 || !h.onlyHas (0xff01 :: asked domain) || !points.tail.contains 0 then none
  else if h.chosenVersion = 0x0303 then h.agreeClear?
  else if h.chosenVersion = 0x0304 then h.agreeSealed? aligned
  else none

end ServerHello
end XmppStream
