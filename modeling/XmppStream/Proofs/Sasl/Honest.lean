import XmppStream.Proofs.Sasl.Directives
import XmppStream.Proofs.Sasl.Soundness
import XmppStream.Proofs.Text.Base64

/-! An exchange by DIGEST-MD5 with an honest server succeeds: one that knows the password, and takes
what else it needs from the reply of the client. -/

namespace XmppStream

namespace Digest

def ofDirectives? (said : Table) (password : String) : Option Digest := do
  let username ← said.get? "username"
  let realm ← said.get? "realm"
  let nonce ← said.get? "nonce"
  let clientNonce ← said.get? "cnonce"
  let uri ← said.get? "digest-uri"
  return { username, realm, password, nonce, clientNonce, uri }

theorem ofDirectives?_directives (d : Digest) (response : String) :
    ofDirectives? (d.directives response) d.password = some d := rfl

theorem get?_response (d : Digest) (response : String) :
    (d.directives response).get? "response" = some response := rfl

theorem parse_serverProof (d : Digest) :
    Challenge.parse ("rspauth=" ++ d.serverProof) = .ok [("rspauth", d.serverProof)] := by
  have bare : Challenge.IsBare d.serverProof := Md5.isBare_hexDigest _
  refine Challenge.parse_listed (.cons (Challenge.reads_unquoted (by decide) bare) .nil)
    (List.pairwise_singleton _ _) ?_
  simp [Challenge.unquoted, Challenge.following]

end Digest

namespace Exchange

variable {σ : Type}

/-- A challenge with some text, which is in base64 and may have blanks around it. -/
structure Carries (challenge : Stanza) (text : String) : Prop where
  kind : challenge.kind = .challenge
  encoded : trim (challenge.text.getD "") = Base64.encode (Utf8.encode text)

/-- The text of a frame, out of base64, has the directives given. -/
def Conveys (frame : Stanza) (said : Table) : Prop :=
  ∃ text bytes body, frame.text = some text ∧ Base64.decode? text = some bytes
    ∧ Utf8.decodeString bytes = .ok body ∧ Challenge.parse body = .ok said

def challengeFrame (text : String) : Stanza :=
  { name := "challenge", ns := Namespace.sasl, text := some (Base64.encode (Utf8.encode text)) }

theorem carries_challengeFrame (text : String) : Carries (challengeFrame text) text where
  kind := rfl
  encoded := Base64.trim_encode _

theorem Carries.read {challenge : Stanza} {text : String} {found : Table}
    (h : Carries challenge text) (parsed : Challenge.parse text = .ok found)
    (inhabited : found ≠ []) : directives challenge = .ok found := by
  have written : Base64.encode (Utf8.encode text) ≠ "" := by
    apply Base64.encode_ne_empty
    intro empty
    have none_ : Challenge.parse "" = .ok [] := Challenge.parseOnto_of_blank [] rfl
    rw [Utf8.encode_eq_nil.1 empty] at parsed
    cases none_.symm.trans parsed
    exact inhabited rfl
  rw [directives, h.encoded, if_neg written, Base64.decode?_encode]
  dsimp only
  rw [Utf8.decodeString_encode]
  exact parsed

theorem conveys_proofFrame (d : Digest) : Conveys (proofFrame d) (d.directives d.clientProof) :=
  ⟨_, _, _, rfl, Base64.decode?_encode _, Utf8.decodeString_encode _,
    d.parse_reply (Md5.isBare_hexDigest _)⟩

theorem start_of_digestMd5 {e : Exchange} (pending : e.outcome = .pending) (idle : e.phase = .idle)
    {offered : List String} (listed : Mechanism.digestMd5.name ∈ offered)
    {source : CredentialSource σ} {s : σ} {username password : String}
    (fetched : (source.fetch s).1 = some (username, password)) :
    e.start offered source s = (.ok (authFrame .digestMd5 none),
      { e with phase := .digestSent username password }, (source.fetch s).2) := by
  have chosen : select? e.options offered = some .digestMd5 := if_pos listed
  have closed : ¬(e.outcome ≠ .pending ∨ e.phase ≠ .idle) := by
    rw [pending, idle]
    simp
  rw [start, if_neg closed, if_neg (List.ne_nil_of_mem listed), chosen]
  dsimp only
  split
  · next none_ =>
    rw [none_] at fetched
    cases fetched
  · next some_ =>
    rw [some_] at fetched
    cases fetched
    rw [some_]
    rfl

theorem Proposes.password {options : AuthOptions} {clientNonce username password : String}
    {challenge : Stanza} {d : Digest}
    (h : Proposes options clientNonce username password challenge d) : d.password = password := by
  obtain ⟨-, _, _, _, _, _, rfl⟩ := h
  rfl

theorem answer_of_proposes {e : Exchange} {challenge : Stanza} {found : Table}
    {username password : String} {d : Digest} (sent : e.phase = .digestSent username password)
    (read : directives challenge = .ok found)
    (h : Proposes e.options e.clientNonce username password challenge d) :
    e.answer found = .ok (proofFrame d, .responseSent d.serverProof) := by
  obtain ⟨-, found', nonce, read', named, offers, rfl⟩ := h
  cases read.symm.trans read'
  have levels : (found.get? "qop").filter (!offersAuth ·) = none := by
    cases listed : found.get? "qop" with
    | none => rfl
    | some qop => simp [offers qop listed]
  rw [answer, sent]
  dsimp only
  rw [digest, named]
  dsimp only
  rw [levels]
  rfl

theorem handle_of_answer {e : Exchange} {challenge reply : Stanza} {found : Table}
    {phase : AuthPhase} (pending : e.outcome = .pending) (underway : e.phase ≠ .idle)
    (notPlain : e.phase ≠ .plainSent) (kind : challenge.kind = .challenge)
    (read : directives challenge = .ok found) (answered : e.answer found = .ok (reply, phase)) :
    e.handle challenge = (.ok (.send reply), { e with phase }) := by
  have taken : e.challenged challenge = .ok (reply, phase) := by
    rw [challenged, if_neg notPlain, read]
    exact answered
  have reacted : e.react challenge = .ok (.send reply, { e with phase }) := by
    rw [react, kind]
    dsimp only
    rw [taken]
  rw [handle, if_neg (by simpa using pending), if_neg underway, reacted]

theorem handle_of_success {e : Exchange} {granted : Stanza} (pending : e.outcome = .pending)
    (underway : e.phase ≠ .idle) (complete : e.phase.complete) (kind : granted.kind = .success) :
    e.handle granted = (.ok .done, { e with outcome := .succeeded }) := by
  have reacted : e.react granted = .ok (.done, { e with outcome := .succeeded }) := by
    rw [react, kind]
    exact if_pos complete
  rw [handle, if_neg (by simpa using pending), if_neg underway, reacted]

theorem confirmed_of_serverProof {e : Exchange} {d : Digest} {second : Stanza}
    (pending : e.outcome = .pending) (sent : e.phase = .responseSent d.serverProof)
    (proof : Carries second ("rspauth=" ++ d.serverProof)) :
    ∃ e₃, e.handle second = (.ok (.send (responseFrame none)), e₃)
      ∧ ∀ granted : Stanza, granted.kind = .success →
        ∃ e₄, e₃.handle granted = (.ok .done, e₄) ∧ e₄.outcome = .succeeded := by
  have read := proof.read d.parse_serverProof (List.cons_ne_nil _ _)
  have accepted : e.answer [("rspauth", d.serverProof)] = .ok (responseFrame none, .finalSent) := by
    rw [answer, sent]
    exact if_pos rfl
  have handled := handle_of_answer pending (by simp [sent]) (by simp [sent]) proof.kind read accepted
  have underway : AuthPhase.finalSent ≠ .idle := by simp
  refine ⟨_, handled, ?_⟩
  intro granted kind
  exact ⟨_, handle_of_success pending underway rfl kind, rfl⟩

/-- Whatever the credentials, the name of the server, the nonces and the realm are, an exchange with
an honest server succeeds: from the reply and the password the server computes the proof that the
reply contains, and its own proof is what the client expects. -/
theorem honest_exchange (options : AuthOptions) (clientNonce : String) {offered : List String}
    (listed : Mechanism.digestMd5.name ∈ offered) (source : CredentialSource σ) (s : σ)
    {username password : String} (fetched : (source.fetch s).1 = some (username, password))
    {first : Stanza} {text : String} (carried : Carries first text) {found : Table}
    (parsed : Challenge.parse text = .ok found) {nonce : String}
    (named : found.get? "nonce" = some nonce)
    (offers : ∀ qop, found.get? "qop" = some qop → offersAuth qop) :
    ∃ e₁ e₂ reply said d,
      (fresh options clientNonce).start offered source s =
          (.ok (authFrame .digestMd5 none), e₁, (source.fetch s).2)
        ∧ e₁.handle first = (.ok (.send reply), e₂)
        ∧ reply.kind = .response ∧ Conveys reply said
        ∧ Proposes options clientNonce username password first d
        ∧ Digest.ofDirectives? said password = some d
        ∧ said.get? "response" = some d.clientProof
        ∧ ∀ second, Carries second ("rspauth=" ++ d.serverProof) →
          ∃ e₃, e₂.handle second = (.ok (.send (responseFrame none)), e₃)
            ∧ ∀ granted : Stanza, granted.kind = .success →
              ∃ e₄, e₃.handle granted = (.ok .done, e₄) ∧ e₄.outcome = .succeeded := by
  have inhabited : found ≠ [] := by
    rintro rfl
    cases named
  have read : directives first = .ok found := carried.read parsed inhabited
  obtain ⟨d, proposes⟩ : ∃ d, Proposes options clientNonce username password first d :=
    ⟨_, carried.kind, found, nonce, read, named, offers, rfl⟩
  have computed : Digest.ofDirectives? (d.directives d.clientProof) password = some d := by
    rw [← proposes.password]
    exact d.ofDirectives?_directives _
  have opened := start_of_digestMd5 (e := fresh options clientNonce) rfl rfl listed fetched
  have replied := handle_of_answer
    (e := { fresh options clientNonce with phase := .digestSent username password })
    rfl nofun nofun carried.kind read (answer_of_proposes rfl read proposes)
  exact ⟨_, _, proofFrame d, _, d, opened, replied, rfl, conveys_proofFrame d, proposes, computed,
    d.get?_response _, fun _ proof => confirmed_of_serverProof rfl rfl proof⟩

def unusualText : String :=
  "realm=\"a \\\"b\\\"\",nonce=\"n\\\\,=\",qop=\"auth-int, auth\""

theorem honest_exchange_unusualText :
    ∃ e₁ e₂ e₃ e₄ reply said d,
      (fresh ⟨"example.org", false, true⟩ "c=\"").start ["PLAIN", "DIGEST-MD5"]
          (Credentials.source ⟨some "\\\"ü ,", some "p:\""⟩) () =
          (.ok (authFrame .digestMd5 none), e₁, ())
        ∧ e₁.handle (challengeFrame unusualText) = (.ok (.send reply), e₂) ∧ Conveys reply said
        ∧ Digest.ofDirectives? said "p:\"" = some d ∧ said.get? "response" = some d.clientProof
        ∧ e₂.handle (challengeFrame ("rspauth=" ++ d.serverProof)) =
          (.ok (.send (responseFrame none)), e₃)
        ∧ e₃.handle { name := "success", ns := Namespace.sasl } = (.ok .done, e₄)
        ∧ e₄.outcome = .succeeded := by
  have parsed : Challenge.parse unusualText =
      .ok [("realm", "a \"b\""), ("nonce", "n\\,="), ("qop", "auth-int, auth")] :=
    Challenge.parse_listed
      (.cons (Challenge.reads_quoted (by decide) _) <| .cons (Challenge.reads_quoted (by decide) _) <|
        .cons (Challenge.reads_quoted (by decide) _) .nil)
      (by decide) (by decide)
  have offers : ∀ qop, Table.get? [("realm", "a \"b\""), ("nonce", "n\\,="),
      ("qop", "auth-int, auth")] "qop" = some qop → offersAuth qop := by
    intro qop listed
    cases listed
    decide
  obtain ⟨e₁, e₂, reply, said, d, opened, replied, -, conveyed, -, computed, sent, rest⟩ :=
    honest_exchange ⟨"example.org", false, true⟩ "c=\""
      (show Mechanism.digestMd5.name ∈ ["PLAIN", "DIGEST-MD5"] by decide)
      (Credentials.source ⟨some "\\\"ü ,", some "p:\""⟩) () rfl
      (carries_challengeFrame unusualText) parsed rfl offers
  obtain ⟨e₃, confirmed, last⟩ := rest _ (carries_challengeFrame _)
  obtain ⟨e₄, done, succeeded⟩ := last { name := "success", ns := Namespace.sasl } rfl
  exact ⟨e₁, e₂, e₃, e₄, reply, said, d, opened, replied, conveyed, computed, sent, confirmed, done,
    succeeded⟩

end Exchange
end XmppStream
