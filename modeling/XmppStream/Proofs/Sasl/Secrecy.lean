import XmppStream.Proofs.Sasl.Honest

/-! Where PLAIN is not selected, the password shows in nothing but the proof that the client sends,
and in whether the server's own proof is the right one. -/

namespace XmppStream

namespace Digest

theorem length_clientProof (d : Digest) : d.clientProof.length = 32 := by
  rw [clientProof, proof, Md5.length_hexDigest]

theorem reply_password (d : Digest) (password response : String) :
    reply { d with password } response = d.reply response := by
  unfold reply
  with_reducible rfl

theorem exists_reply_eq (d : Digest) : ∃ body, ∀ response, d.reply response = body ++ response :=
  ⟨_, fun _ => rfl⟩

end Digest

namespace Exchange

section
variable (options : AuthOptions) (clientNonce username : String)

def awaiting (password : String) : Exchange :=
  { options, clientNonce, phase := .digestSent username password }

def responded (expected : String) : Exchange :=
  { options, clientNonce, phase := .responseSent expected }

/-- A server that knows the password has sent both frames: the second proves what the first one
leads to. -/
def Confirms (first second : Stanza) (password : String) : Prop :=
  ∃ d, Proposes options clientNonce username password first d ∧ Proves second d

end

theorem answers_of_ended {e : Exchange} (ended : e.outcome ≠ .pending) (frames : List Stanza) :
    e.answers frames = frames.map fun _ => .error .alreadyFinished := by
  induction frames with
  | nil => rfl
  | cons frame frames ih =>
    rw [answers, handle_of_ended ended, ih]
    rfl

theorem handleAll_of_ended {e : Exchange} (ended : e.outcome ≠ .pending) (frames : List Stanza) :
    e.handleAll frames = e := by
  induction frames with
  | nil => rfl
  | cons frame frames ih =>
    rw [handleAll, handle_of_ended ended]
    exact ih

theorem outcome_fail (e : Exchange) (why : AuthFault) : (e.fail why).outcome = .failed why := rfl

theorem fail_ended (e : Exchange) (why : AuthFault) : (e.fail why).outcome ≠ .pending := nofun

theorem Proposes.unique {options : AuthOptions} {clientNonce username password : String}
    {challenge : Stanza} {d d' : Digest}
    (h : Proposes options clientNonce username password challenge d)
    (h' : Proposes options clientNonce username password challenge d') : d = d' := by
  obtain ⟨-, found, nonce, read, named, -, rfl⟩ := h
  obtain ⟨-, found', nonce', read', named', -, rfl⟩ := h'
  cases read.symm.trans read'
  cases named.symm.trans named'
  rfl

theorem handle_of_refusal {e : Exchange} (pending : e.outcome = .pending)
    (underway : e.phase ≠ .idle) {frame : Stanza} {why : AuthFault}
    (refused : e.react frame = .error why) : e.handle frame = (.error why, e.fail why) := by
  rw [handle, if_neg (by simpa using pending), if_neg underway, refused]

section
variable (options : AuthOptions) (clientNonce username : String)

theorem start_blind {offered : List String} (noPlain : select? options offered ≠ some .plain) :
    (∃ why, ∀ password, (fresh options clientNonce).start offered
        (Credentials.source ⟨some username, some password⟩) () =
        (.error why, (fresh options clientNonce).fail why, ()))
      ∨ ∀ password, (fresh options clientNonce).start offered
        (Credentials.source ⟨some username, some password⟩) () =
        (.ok (authFrame .digestMd5 none), awaiting options clientNonce username password, ()) := by
  have open_ : ¬((fresh options clientNonce).outcome ≠ .pending
      ∨ (fresh options clientNonce).phase ≠ .idle) := by simp [fresh]
  by_cases empty : offered = []
  · left
    refine ⟨.notSupported, fun password => ?_⟩
    rw [start, if_neg open_, if_pos empty]
  · cases chosen : select? options offered with
    | none =>
      left
      refine ⟨.noSupportedMechanism, fun password => ?_⟩
      rw [start, if_neg open_, if_neg empty, show (fresh options clientNonce).options = options from rfl,
        chosen]
    | some m =>
      right
      intro password
      cases m with
      | plain => exact absurd chosen noPlain
      | digestMd5 => exact start_of_digestMd5 rfl rfl (select?_eq_digestMd5 chosen) rfl

theorem challenged_awaiting {first : Stanza} (kind : first.kind = .challenge) :
    (∃ why, ∀ password,
        (awaiting options clientNonce username password).challenged first = .error why)
      ∨ ∃ d : Digest, ∀ password,
        Proposes options clientNonce username password first { d with password } := by
  cases read : directives first with
  | error why =>
    left
    refine ⟨why, fun password => ?_⟩
    rw [challenged, if_neg (by simp [awaiting]), read]
  | ok found =>
    have computed (password : String) (e : Exchange) :
        e = awaiting options clientNonce username password →
        e.challenged first = e.answer found := by
      rintro rfl
      rw [challenged, if_neg (by simp [awaiting]), read]
    -- Each of the checks looks at the challenge alone.
    cases named : found.get? "nonce" with
    | none =>
      left
      refine ⟨.noNonce, fun password => ?_⟩
      rw [computed password _ rfl, answer, awaiting]
      dsimp only
      rw [digest, named]
    | some nonce =>
      cases levels : (found.get? "qop").filter (!offersAuth ·) with
      | some qop =>
        left
        refine ⟨.unsupportedQop qop, fun password => ?_⟩
        rw [computed password _ rfl, answer, awaiting]
        dsimp only
        rw [digest, named]
        dsimp only
        rw [levels]
      | none =>
        right
        let realm := (found.get? "realm").getD options.server
        let d : Digest := ⟨username, realm, "", nonce, clientNonce, "xmpp/" ++ realm⟩
        refine ⟨d, fun password => digest_eq_ok kind read
          (?_ : (awaiting options clientNonce username password).digest _ _ _ = _)⟩
        rw [digest, named]
        dsimp only
        rw [levels]
        rfl

theorem handle_awaiting (first : Stanza) :
    (∃ why, ∀ password, (awaiting options clientNonce username password).handle first =
        (.error why, (awaiting options clientNonce username password).fail why))
      ∨ ∃ d : Digest, ∀ password,
        Proposes options clientNonce username password first { d with password }
          ∧ (awaiting options clientNonce username password).handle first =
            (.ok (.send (proofFrame { d with password })),
              responded options clientNonce (Digest.serverProof { d with password })) := by
  have refused (why : AuthFault) (reacts : ∀ password,
      (awaiting options clientNonce username password).react first = .error why) :
      ∃ why, ∀ password, (awaiting options clientNonce username password).handle first =
        (.error why, (awaiting options clientNonce username password).fail why) :=
    ⟨why, fun password => handle_of_refusal rfl (by simp [awaiting]) (reacts password)⟩
  cases kind : first.kind with
  | challenge =>
    rcases challenged_awaiting options clientNonce username kind with ⟨why, unread⟩ | ⟨d, proposes⟩
    · left
      refine refused (.invalidReply why) fun password => ?_
      rw [react, kind]
      dsimp only
      rw [unread]
    · right
      refine ⟨d, fun password => ⟨proposes password, ?_⟩⟩
      obtain ⟨-, found, -, read, -⟩ := proposes password
      exact handle_of_answer (e := awaiting options clientNonce username password) rfl
        (by simp [awaiting]) (by simp [awaiting]) kind read
        (answer_of_proposes rfl read (proposes password))
  | success => exact .inl (refused _ fun password => by rw [react, kind]; rfl)
  | _ => exact .inl (refused _ fun password => by rw [react, kind])

theorem handle_of_proves {second : Stanza} {d : Digest} (proves : Proves second d) :
    (responded options clientNonce d.serverProof).handle second =
      (.ok (.send (responseFrame none)), { options, clientNonce, phase := .finalSent }) := by
  obtain ⟨kind, found, read, proof⟩ := proves
  exact handle_of_answer rfl (by simp [responded]) (by simp [responded]) kind read (if_pos proof)

theorem handle_of_not_proves (second : Stanza) : ∃ why, ∀ d : Digest, ¬Proves second d →
    (responded options clientNonce d.serverProof).handle second =
      (.error why, (responded options clientNonce d.serverProof).fail why) := by
  suffices reacts : ∃ why, ∀ d : Digest, ¬Proves second d →
      (responded options clientNonce d.serverProof).react second = .error why by
    obtain ⟨why, reacts⟩ := reacts
    exact ⟨why, fun d unproved =>
      handle_of_refusal rfl (by simp [responded]) (reacts d unproved)⟩
  cases kind : second.kind with
  | challenge =>
    cases read : directives second with
    | error why =>
      refine ⟨.invalidReply why, fun d _ => ?_⟩
      rw [react, kind]
      dsimp only
      rw [challenged, if_neg (by simp [responded]), read]
    | ok found =>
      refine ⟨.invalidReply .wrongProof, fun d unproved => ?_⟩
      have wrong : found.get? "rspauth" ≠ some d.serverProof :=
        fun proof => unproved ⟨kind, found, read, proof⟩
      rw [react, kind]
      dsimp only
      rw [challenged, if_neg (by simp [responded]), read]
      dsimp only
      rw [answer, responded]
      dsimp only
      rw [if_neg wrong]
  | success => exact ⟨_, fun d _ => by rw [react, kind]; rfl⟩
  | _ => exact ⟨_, fun d _ => by rw [react, kind]⟩

/-- From the second frame on two digests differ only where that frame proves one of them alone. -/
theorem responded_blind {second : Stanza} {d d' : Digest} (same : Proves second d ↔ Proves second d')
    (rest : List Stanza) :
    (responded options clientNonce d.serverProof).answers (second :: rest) =
        (responded options clientNonce d'.serverProof).answers (second :: rest)
      ∧ ((responded options clientNonce d.serverProof).handleAll (second :: rest)).outcome =
        ((responded options clientNonce d'.serverProof).handleAll (second :: rest)).outcome := by
  simp only [answers, handleAll]
  by_cases proves : Proves second d
  · rw [handle_of_proves options clientNonce proves,
      handle_of_proves options clientNonce (same.1 proves)]
    exact ⟨rfl, rfl⟩
  · obtain ⟨why, refused⟩ := handle_of_not_proves options clientNonce second
    rw [refused d proves, refused d' fun proves' => proves (same.2 proves')]
    simp only [answers_of_ended (fail_ended _ _), handleAll_of_ended (fail_ended _ _), outcome_fail,
      and_self]

end

theorem responseFrame_of_send {e : Exchange} (past : e.outcome = .pending →
      ∀ username password, e.phase ≠ .digestSent username password)
    {frames : List Stanza} {frame : Stanza} (sent : .ok (.send frame) ∈ e.answers frames) :
    frame = responseFrame none := by
  induction frames generalizing e with
  | nil => cases sent
  | cons next frames ih =>
    -- The proof is sent from one phase only, and `past` rules this one out.
    by_cases pending : e.outcome = .pending
    · rw [answers] at sent
      rcases handle_cases pending next with ⟨why, handled⟩ | ⟨-, -, handled⟩
        | ⟨reply, phase, kind, answered, handled⟩
      · rw [handled] at sent
        exact ih (by simp [fail]) ((List.mem_cons.1 sent).resolve_left nofun)
      · rw [handled] at sent
        exact ih (by simp) ((List.mem_cons.1 sent).resolve_left nofun)
      · rw [handled] at sent
        rcases challenged_cases kind answered with ⟨username, password, -, before, -⟩
          | ⟨-, -, -, -, -, rfl, rfl⟩
        · exact absurd before (past pending username password)
        · rcases List.mem_cons.1 sent with now | later
          · cases now
            rfl
          · exact ih (by simp) later
    · rw [answers_of_ended pending] at sent
      simp at sent

/-- Where PLAIN is not selected, an exchange starts alike with any two passwords, whatever the
options, the mechanisms offered, the user name and the nonce are. The server's first frame leads to
the same with both, up to the last 32 characters of a reply, the client's proof. All that is sent
after it is the empty response, and from the second frame on the two differ only if that frame proves
one of the two digests alone. -/
theorem password_stays_secret (options : AuthOptions) (clientNonce : String)
    (offered : List String) (noPlain : select? options offered ≠ some .plain)
    (username password password' : String) (first second : Stanza) (rest : List Stanza) :
    let started password := (fresh options clientNonce).start offered
      (Credentials.source ⟨some username, some password⟩) ()
    let met password := (started password).2.1.handle first
    (started password).1 = (started password').1
      ∧ (started password).2.1.mechanism? = (started password').2.1.mechanism?
      ∧ (started password).2.1.outcome = (started password').2.1.outcome
      ∧ ((met password).1 = (met password').1
        ∨ ∃ body proof proof', proof.length = 32 ∧ proof'.length = 32
          ∧ (met password).1 = .ok (.send (responseFrame
            (some (Base64.encode (Utf8.encode (body ++ proof))))))
          ∧ (met password').1 = .ok (.send (responseFrame
            (some (Base64.encode (Utf8.encode (body ++ proof')))))))
      ∧ (met password).2.outcome = (met password').2.outcome
      ∧ (∀ frame, .ok (.send frame) ∈ (met password).2.answers (second :: rest) →
        frame = responseFrame none)
      ∧ ((Confirms options clientNonce username first second password ↔
          Confirms options clientNonce username first second password') →
        (met password).2.answers (second :: rest) = (met password').2.answers (second :: rest)
          ∧ ((met password).2.handleAll (second :: rest)).outcome =
            ((met password').2.handleAll (second :: rest)).outcome) := by
  intro started met
  -- Either the start is refused alike, or the two exchanges differ in the password alone.
  rcases start_blind options clientNonce username noPlain with ⟨why, same⟩ | same
  · have alike : started password = started password' := (same password).trans (same password').symm
    have ended : (started password).2.1.outcome ≠ .pending := by
      rw [show started password = _ from same password]
      exact fail_ended _ _
    have alike' : met password = met password' := by simp only [met, alike]
    refine ⟨by rw [alike], by rw [alike], by rw [alike], .inl (by rw [alike']), by rw [alike'],
      fun frame sent => responseFrame_of_send ?_ sent, fun _ => by rw [alike']; exact ⟨rfl, rfl⟩⟩
    intro pending
    rw [show met password = _ from handle_of_ended ended first] at pending
    exact absurd pending ended
  · have begun (password : String) :
        started password = (_, awaiting options clientNonce username password, ()) := same password
    have begun' : (started password).2.1.mechanism? = (started password').2.1.mechanism? := by
      rw [begun, begun]
      rfl
    refine ⟨by rw [begun, begun], begun', by rw [begun, begun]; rfl, ?_⟩
    have meets (password : String) :
        met password = (awaiting options clientNonce username password).handle first := by
      rw [show met password = (started password).2.1.handle first from rfl, begun]
    rw [meets, meets]
    rcases handle_awaiting options clientNonce username first with ⟨why, refused⟩ | ⟨d, replied⟩
    · rw [refused, refused]
      refine ⟨.inl rfl, rfl, fun frame sent => responseFrame_of_send (by simp [fail]) sent, ?_⟩
      intro _
      rw [answers_of_ended (fail_ended _ _), answers_of_ended (fail_ended _ _),
        handleAll_of_ended (fail_ended _ _), handleAll_of_ended (fail_ended _ _)]
      exact ⟨rfl, rfl⟩
    · have confirms (password : String) : Confirms options clientNonce username first second password
          ↔ Proves second { d with password } := by
        constructor
        · rintro ⟨d', proposes, proves⟩
          rwa [(replied password).1.unique proposes]
        · exact fun proves => ⟨_, (replied password).1, proves⟩
      rw [(replied password).2, (replied password').2, confirms, confirms]
      -- The reply ends in the proof, so only its last characters can differ.
      obtain ⟨body, written⟩ := d.exists_reply_eq
      refine ⟨.inr ⟨body, _, _, Digest.length_clientProof { d with password },
        Digest.length_clientProof { d with password := password' }, ?_, ?_⟩, ?_,
        fun frame sent => responseFrame_of_send (by simp [responded]) sent,
        fun same => responded_blind options clientNonce same rest⟩
      · rw [proofFrame, Digest.reply_password, written]
      · rw [proofFrame, Digest.reply_password, written]
      · simp only [responded]

/-- A server that grants the exchange without a proof of its own learns of neither password. -/
theorem password_stays_secret_grantedEarly :
    let options : AuthOptions := ⟨"example.org", true, true⟩
    let met (password : String) := ((fresh options "c").start ["PLAIN", "DIGEST-MD5"]
      (Credentials.source ⟨some "u", some password⟩) ()).2.1.handle (challengeFrame unusualText)
    let granted : Stanza := { name := "success", ns := Namespace.sasl }
    select? options ["PLAIN", "DIGEST-MD5"] ≠ some .plain
      ∧ ((met "p").2.handleAll [granted]).outcome = ((met "q").2.handleAll [granted]).outcome := by
  intro options met granted
  have noPlain : select? options ["PLAIN", "DIGEST-MD5"] ≠ some .plain := by decide
  have unproved (password : String) :
      ¬Confirms options "c" "u" (challengeFrame unusualText) granted password := by
    rintro ⟨d, -, kind, -⟩
    cases kind
  obtain ⟨-, -, -, -, -, -, same⟩ := password_stays_secret options "c" ["PLAIN", "DIGEST-MD5"] noPlain
    "u" "p" "q" (challengeFrame unusualText) granted []
  exact ⟨noPlain, (same (iff_of_false (unproved "p") (unproved "q"))).2⟩

end Exchange

end XmppStream
