import XmppStream.Sasl.Challenge
import XmppStream.Sasl.Credentials
import XmppStream.Sasl.Digest
import XmppStream.Stanza
import XmppStream.Text.Base64
import XmppStream.Text.Basic

/-! The client side of one authentication exchange, as a machine that takes the frames of the server
one at a time and answers with frames to send. Its outcome is final once it is no longer pending. -/

namespace XmppStream

inductive Mechanism where
  | plain
  | digestMd5
deriving DecidableEq, Repr

def Mechanism.name : Mechanism → String
  | .plain => "PLAIN"
  | .digestMd5 => "DIGEST-MD5"

structure AuthOptions where
  /-- The realm where a challenge names none. -/
  server : String
  allowPlain : Bool
  encrypted : Bool
deriving DecidableEq, Repr

inductive AuthOutcome where
  | pending
  | succeeded
  | failed (why : AuthFault)
deriving DecidableEq, Repr

inductive AuthStep where
  | send (frame : Stanza)
  | done
deriving DecidableEq, Repr

inductive AuthPhase where
  | idle
  | plainSent
  | digestSent (username password : String)
  /-- The client's proof was sent; this is the proof to expect from the server. -/
  | responseSent (expected : String)
  | finalSent
deriving DecidableEq, Repr

namespace AuthPhase

def mechanism? : AuthPhase → Option Mechanism
  | idle => none
  | plainSent => some .plain
  | digestSent _ _ | responseSent _ | finalSent => some .digestMd5

/-- How many frames the client can still answer. -/
def answersLeft : AuthPhase → Nat
  | idle | plainSent | finalSent => 0
  | responseSent _ => 1
  | digestSent _ _ => 2

def complete : AuthPhase → Bool
  | plainSent | finalSent => true
  | _ => false

end AuthPhase

structure Exchange where
  options : AuthOptions
  clientNonce : String
  phase : AuthPhase := .idle
  outcome : AuthOutcome := .pending
deriving DecidableEq, Repr

namespace Exchange

def mechanism? (e : Exchange) : Option Mechanism := e.phase.mechanism?

def fail (e : Exchange) (why : AuthFault) : Exchange := { e with outcome := .failed why }

/-- DIGEST-MD5 where it is offered, else PLAIN where it is offered and allowed. -/
def select? (options : AuthOptions) (offered : List String) : Option Mechanism :=
  if Mechanism.digestMd5.name ∈ offered then some .digestMd5
  else if options.allowPlain ∧ Mechanism.plain.name ∈ offered then some .plain
  else none

def plainText (username password : String) : String :=
  Base64.encode (Utf8.encode ("\x00" ++ username ++ "\x00" ++ password))

def authFrame (m : Mechanism) (text : Option String) : Stanza :=
  { name := "auth", ns := Namespace.sasl, attrs := [("mechanism", m.name)], text }

def begin (e : Exchange) (m : Mechanism) (username password : String) : Stanza × Exchange :=
  match m with
  | .plain =>
    (authFrame .plain (some (plainText username password)), { e with phase := .plainSent })
  | .digestMd5 =>
    (authFrame .digestMd5 none, { e with phase := .digestSent username password })

/-- Chooses among the mechanisms offered and gives the first frame. The credentials are fetched only
once a mechanism is found. -/
def start {σ : Type} (e : Exchange) (offered : List String) (source : CredentialSource σ) (s : σ) :
    Except AuthFault Stanza × Exchange × σ :=
  if e.outcome ≠ .pending ∨ e.phase ≠ .idle then (.error .alreadyFinished, e, s)
  else if offered = [] then (.error .notSupported, e.fail .notSupported, s)
  else match select? e.options offered with
    | none => (.error .noSupportedMechanism, e.fail .noSupportedMechanism, s)
    | some m =>
      match source.fetch s with
      | (none, s) => (.error .noCredentials, e.fail .noCredentials, s)
      | (some (username, password), s) =>
        let (frame, e) := e.begin m username password
        (.ok frame, e, s)

def directives (frame : Stanza) : Except ReplyFault Table :=
  let text := trim (frame.text.getD "")
  if text = "" then .error .emptyChallenge
  else match Base64.decode? text with
    | none => .error .notBase64
    | some bytes =>
      match Utf8.decodeString bytes with
      | .error _ => .error .notText
      | .ok body => Challenge.parse body

def offersAuth (qop : String) : Bool :=
  (partsAt ',' qop.toList).any fun level => trimChars level = ['a', 'u', 't', 'h']

def digest (e : Exchange) (found : Table) (username password : String) :
    Except ReplyFault Digest :=
  match found.get? "nonce" with
  | none => .error .noNonce
  | some nonce =>
    match (found.get? "qop").filter (!offersAuth ·) with
    | some qop => .error (.unsupportedQop qop)
    | none =>
      let realm := (found.get? "realm").getD e.options.server
      .ok { username, realm, password, nonce, clientNonce := e.clientNonce, uri := "xmpp/" ++ realm }

def responseFrame (text : Option String) : Stanza :=
  { name := "response", ns := Namespace.sasl, text }

def answer (e : Exchange) (found : Table) : Except ReplyFault (Stanza × AuthPhase) :=
  match e.phase with
  | .idle => .error .notStarted
  | .plainSent => .error .plainChallenged
  | .digestSent username password =>
    match e.digest found username password with
    | .error why => .error why
    | .ok d =>
      .ok (responseFrame (some (Base64.encode (Utf8.encode (d.reply d.clientProof)))),
        .responseSent d.serverProof)
  | .responseSent expected =>
    if found.get? "rspauth" = some expected then .ok (responseFrame none, .finalSent)
    else .error .wrongProof
  | .finalSent => .error .challengeAfterFinal

def challenged (e : Exchange) (frame : Stanza) : Except ReplyFault (Stanza × AuthPhase) :=
  if e.phase = .plainSent then .error .plainChallenged
  else match directives frame with
    | .error why => .error why
    | .ok found => e.answer found

/-- What a frame of the server leads to, in an exchange that has begun and is pending. -/
def react (e : Exchange) (frame : Stanza) : Except AuthFault (AuthStep × Exchange) :=
  match frame.kind with
  | .failure => .error (.failure (frame.reason "Unknown reason"))
  | .challenge =>
    match e.challenged frame with
    | .error why => .error (.invalidReply why)
    | .ok (reply, phase) => .ok (.send reply, { e with phase })
  | .success =>
    if e.phase.complete then .ok (.done, { e with outcome := .succeeded })
    else .error (.invalidReply .earlySuccess)
  | _ => .error (.invalidReply (.unexpected frame.name frame.ns))

def handle (e : Exchange) (frame : Stanza) : Except AuthFault AuthStep × Exchange :=
  if e.outcome ≠ .pending then (.error .alreadyFinished, e)
  else if e.phase = .idle then
    (.error (.invalidReply .notStarted), e.fail (.invalidReply .notStarted))
  else match e.react frame with
    | .error why => (.error why, e.fail why)
    | .ok (step, e) => (.ok step, e)

def cancel (e : Exchange) : Exchange := if e.outcome = .pending then e.fail .cancelled else e

def offeredBy (features : Stanza) : List String :=
  match features.childIn? "mechanisms" Namespace.sasl with
  | none => []
  | some mechanisms =>
    (mechanisms.children.filter (·.name = "mechanism")).filterMap fun m => m.text.map trim

end Exchange
end XmppStream
