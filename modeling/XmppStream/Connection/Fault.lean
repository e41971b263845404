import XmppStream.Node.Printer
import XmppStream.Reader.Fault
import XmppStream.Stanza

/-! What can go wrong on a connection to the peer. -/

namespace XmppStream

inductive Awaiting where
  | header
  | features
  | proceed
deriving DecidableEq, Repr

def Awaiting.message : Awaiting → String
  | header => "STARTTLS stream header"
  | features => "STARTTLS stream features"
  | proceed => "STARTTLS proceed response"

inductive StanzaFault where
  | features (got : Stanza)
  | proceed (got : Stanza)
  | other (detail : String)
deriving DecidableEq, Repr

def StanzaFault.message : StanzaFault → String
  | .features got => "expected stream features, got " ++ got.toXml
  | .proceed got => "expected <proceed/>, got " ++ got.toXml
  | .other detail => detail

inductive HandshakeClass where
  | certificate
  | timeout
  | refused
  | other
deriving DecidableEq, Repr

def HandshakeClass.message : HandshakeClass → String
  | .certificate => "certificate_error"
  | .timeout => "timeout"
  | .refused => "connection_refused"
  | .other => "other"

inductive TlsFault where
  | notOffered (features : Stanza)
  | rejected
  | noRoots
  | invalidName
  | handshake (domain : String) (trouble : HandshakeClass)
  | other (detail : String)
deriving DecidableEq, Repr

def TlsFault.message : TlsFault → String
  | .notOffered features => "Server does not offer STARTTLS. Features: " ++ features.toXml
  | .rejected => "Server rejected STARTTLS"
  | .noRoots =>
    "no usable root certificates in the system store; "
      ++ "install a CA bundle (e.g. the ca-certificates package)"
  | .invalidName => "Invalid server name: invalid dns name"
  | .handshake domain trouble =>
    "TLS handshake failed with " ++ domain ++ " (" ++ trouble.message ++ ")"
  | .other detail => detail

inductive ConnectionFault where
  | io (detail : String)
  | reader (why : ReaderFault)
  | closed
  | unexpected (why : StanzaFault)
  | tls (why : TlsFault)
  | timeout (waiting : Awaiting)
deriving DecidableEq, Repr

def ConnectionFault.message : ConnectionFault → String
  | .io detail => "I/O error: " ++ detail
  | .reader why => why.message
  | .closed => "stream closed by peer"
  | .unexpected why => "unexpected stanza: " ++ why.message
  | .tls why => "TLS error: " ++ why.message
  | .timeout waiting => "timed out waiting for " ++ waiting.message

end XmppStream
