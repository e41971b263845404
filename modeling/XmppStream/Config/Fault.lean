/-! What can be wrong with a configuration. -/

namespace XmppStream

inductive ConfigFault where
  | malformed
  | emptyDomain
  | zeroStanzaSize
  | zeroTimeout
  | zeroRequestEvery
  | logDirectory
  | logFilter
  | logSubscriber
  | other (detail : String)
deriving DecidableEq, Repr

def ConfigFault.message : ConfigFault → String
  | malformed => "malformed config"
  | emptyDomain => "domain must not be empty"
  | zeroStanzaSize => "max_stanza_size must be positive"
  | zeroTimeout => "starttls_timeout_secs must be positive"
  | zeroRequestEvery => "stream_management.request_every must be positive or null"
  | logDirectory => "could not create log directory"
  | logFilter => "invalid log filter"
  | logSubscriber => "could not install log subscriber"
  | other detail => detail

end XmppStream
