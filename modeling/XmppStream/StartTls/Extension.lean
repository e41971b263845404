import XmppStream.StartTls.Scan

/-! Extensions of TLS messages: a number and a body each. What a body looks like hangs on the
message too. This is the reading of a TLS client library. -/

namespace XmppStream

abbrev Extensions : Type := List (Nat × Bytes)

structure ExtensionRules where
  forms : List (Nat × Scan Unit)
  unknown : Scan Unit := discard Scan.rest
  repeats : Bool := false
  excess : HandshakeClass := .other

namespace ExtensionRules

open Scan

def item (rules : ExtensionRules) (before : Extensions) : Scan (Nat × Bytes) := do
  let kind ← number 2
  let body ← field 2
  let known := rules.forms.lookup kind
  check ((known.isNone && rules.repeats) || (before.lookup kind).isNone)
  Scan.all rules.excess (known.getD rules.unknown) body
  return (kind, body)

def read (rules : ExtensionRules) : Scan Extensions := do row rules.item [] (← field 2)

end ExtensionRules
end XmppStream
