/-! What can go wrong in stream management. -/

namespace XmppStream

inductive AckFault where
  | missingCount
  | notACounter (text : String)
  | other (detail : String)
deriving DecidableEq, Repr

def AckFault.message : AckFault → String
  | .missingCount => "missing 'h' attribute"
  | .notACounter text => "'h' is not a counter: " ++ text
  | .other detail => detail

inductive ManagementFault where
  | invalidAck (why : AckFault)
  | notEnabled
  | notOffered
  | refused (reason : String)
deriving DecidableEq, Repr

def ManagementFault.message : ManagementFault → String
  | .invalidAck why => "invalid stream management ack: " ++ why.message
  | .notEnabled => "stream management is not enabled"
  | .notOffered => "server refused stream management: server does not offer stream management"
  | .refused reason => "server refused stream management: " ++ reason

end XmppStream
