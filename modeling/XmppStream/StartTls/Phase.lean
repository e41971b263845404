import XmppStream.StartTls.Message

/-! Where a TLS handshake stands, seen from the client, and which messages take it on: the machine
in a TLS client library. The bytes of the server are known before the client's random bytes, so that
no signature of it can be right: a handshake comes at the farthest to the message that has the
signature checked. -/

namespace XmppStream.Handshake

/-- What the client waits for. It knows whether keys are signed by RSA, whether there are
certificates in the server's chain, and whether the signature is in a way that fits. -/
inductive Phase where
  | hello
  | chain (rsa stapling : Bool)
  | status (rsa chained : Bool)
  | keys (rsa chained : Bool)
  | request (chained fits : Bool)
  | done (chained fits : Bool)
  | extensions
  | sealedRequest
  | sealedChain
  | signature (chained : Bool)
deriving DecidableEq, Repr

namespace Phase

def isSealed : Phase → Bool
  | extensions => true
  | sealedRequest => true
  | sealedChain => true
  | signature _ => true
  | _ => false

def namesCertificate : Phase → Bool
  | chain .. => true
  | status .. => true
  | sealedRequest => true
  | sealedChain => true
  | signature _ => true
  | _ => false

def keysScheme : Scan Nat := do
  Scan.check ((← Scan.number 1) = 3)
  discard (Scan.number 2)
  discard (Scan.nonempty 1)
  let scheme ← Scan.number 2
  discard (Scan.field 2)
  return scheme

def schemes (rsa : Bool) : List Nat :=
  if rsa then [0x0401, 0x0501, 0x0601, 0x0804, 0x0805, 0x0806] else [0x0403, 0x0503, 0x0807]

def afterKeys (rsa chained : Bool) (body : Bytes) : Except HandshakeClass Phase := do
  let scheme ← Scan.all .other keysScheme body
  return request chained ((schemes rsa).contains scheme)

/-- The complaint that ends the handshake where the server's signature is checked: there is no
certificate, or it does not bear the signature out, or it is not asked. -/
def lastComplaint (chained fits : Bool) : HandshakeClass :=
  if chained && !fits then .other else .certificate

def clientSchemes : List Nat :=
  [0x0403, 0x0503, 0x0603, 0x0804, 0x0805, 0x0806, 0x0807, 0x0808, 0x0904, 0x0905, 0x0906]

def sealedSchemes : List Nat := [0x0403, 0x0503, 0x0804, 0x0805, 0x0806, 0x0807]

def allowsExtensions (domain : Bool) (extensions : Extensions) : Bool :=
  extensions.all fun (kind, _) => (kind = 0 && domain) || [5, 10, 13, 45].contains kind

/-- Goes on by a message. `domain` tells that the server's name is not an address, and `aligned`
that no part of another message has come. -/
def receive (domain aligned : Bool) (p : Phase) (m : TlsMessage) : Except HandshakeClass Phase :=
  match p, m.content with
  | hello, .hello h =>
    match h.agree? domain aligned with
    | none => .error .other
    | some (.clear rsa stapling) => .ok (chain rsa stapling)
    | some .sealed => .ok extensions
  | chain rsa stapling, .chain certificates =>
    .ok (if stapling then .status rsa (certificates ≠ []) else keys rsa (certificates ≠ []))
  | status rsa chained, .status => .ok (keys rsa chained)
  | status rsa chained, .keys body => afterKeys rsa chained body
  | keys rsa chained, .keys body => afterKeys rsa chained body
  | request chained fits, .request => .ok (done chained fits)
  | request chained fits, .done => .error (if aligned then lastComplaint chained fits else .other)
  | done chained fits, .done => .error (if aligned then lastComplaint chained fits else .other)
  | extensions, .extensions e =>
    if allowsExtensions domain e then .ok sealedRequest else .error .other
  | sealedRequest, .sealedRequest context schemes =>
    if context ≠ [] then .error .other
    else if schemes.any clientSchemes.contains then .ok sealedChain
    else .error .certificate
  | sealedRequest, .sealedChain context certificates =>
    if context ≠ [] then .error .other else .ok (signature (certificates ≠ []))
  | sealedChain, .sealedChain context certificates =>
    if context ≠ [] then .error .other else .ok (signature (certificates ≠ []))
  | signature chained, .signature scheme =>
    .error (lastComplaint chained (sealedSchemes.contains scheme))
  | p, _ => .error (if p.namesCertificate || m.namesCertificate then .certificate else .other)

end Phase
end XmppStream.Handshake
