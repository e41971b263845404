import XmppStream.Proofs.Connection.Waiting
import XmppStream.Proofs.Stanza
import XmppStream.StartTls.Upgrade

/-! TLS begins by consent. In the clear the client asks for it where the features offer it, and it
hands over to TLS once the server says to proceed. -/

namespace XmppStream

namespace Act

variable {σ ε α β γ : Type}

theorem bind_of_failed {act : Act σ ε α} {s s' : σ} {why : ε} (h : act s = (.failed why, s'))
    (next : α → Act σ ε β) : (act >>= next) s = (.failed why, s') := by
  rw [bind_apply, andThen, h]

theorem bind_assoc (act : Act σ ε α) (next : α → Act σ ε β) (last : β → Act σ ε γ) :
    (act >>= next >>= last) = act >>= fun a => next a >>= last := by
  funext s
  rw [bind_apply, bind_apply, andThen, bind_apply, andThen, andThen]
  obtain ⟨outcome, s'⟩ := act s
  cases outcome <;> rfl

end Act

namespace Connection

variable {c : Connection}

def opening (c : Connection) (header : Header) : List String :=
  if c.reader.framing = .standalone then [] else [c.reader.framing.openText header]

theorem wrote_sendOpen (works : c.Works) (fine : c.reader.fault = none) (header : Header) :
    ∃ c', sendOpen header c = (.ready (), c')
      ∧ Wrote (c.named header) (c.opening header) c' ∧ Heard c [] [] c'
      ∧ c'.header = c.header := by
  by_cases framed : c.reader.framing = .standalone
  · -- Nothing is written, and the default namespace stays as it is.
    have silent : sendOpen header c = (.ready (), c) := by
      rw [sendOpen]
      split <;> simp_all
    have same : c.named header = c := by simp [named, framed]
    refine ⟨c, silent, ?_, .refl fine, rfl⟩
    rw [opening, if_pos framed, same]
    exact .refl c
  · refine ⟨_, sendOpen_eq works framed header, ?_, ?_, rfl⟩
    · rw [opening, if_neg framed]
      exact wrote_writing _ _
    · exact .of_same fine rfl rfl rfl rfl rfl

end Connection

namespace StartTls
open Connection

def greet (config : Config) : Act Connection ConnectionFault Stanza := do
  sendOpen config.header
  discard (recvOpen.within (.timeout .header))
  recv.within (.timeout .features)

def requestText : String := "<starttls xmlns='urn:ietf:params:xml:ns:xmpp-tls'/>"

def Offers (features : Stanza) : Prop :=
  features.is "features" Namespace.stream
    ∧ ∃ child ∈ features.children, child.is "starttls" Namespace.tls

structure Greets (config : Config) (c : Connection) (first : Stanza) (c' : Connection) : Prop where
  runs : greet config c = (.ready first, c')
  heard : ∃ reads, Heard c reads [first] c' ∧ c.reader.BringsHeader reads
  texts : c.textsTo c' = c.opening config.header

/-- Why the client goes no further in the clear, and what it has written by then. -/
inductive Refuses (config : Config) (c : Connection) : ConnectionFault → List String → Prop where
  | header {reads : List Bytes} {c' : Connection} {why : ConnectionFault}
      (heard : Heard c reads [] c') (headless : ¬ c.reader.BringsHeader reads)
      (stops : c'.Stops .header why) : Refuses config c why (c.opening config.header)
  | features {reads : List Bytes} {c' : Connection} {why : ConnectionFault}
      (heard : Heard c reads [] c') (headed : c.reader.BringsHeader reads) (missing : c'.inbox = [])
      (stops : c'.Stops .features why) : Refuses config c why (c.opening config.header)
  | unexpected {first : Stanza} {c₁ : Connection} (greets : Greets config c first c₁)
      (other : ¬ first.is "features" Namespace.stream) :
      Refuses config c (.unexpected (.features first)) (c.opening config.header)
  | notOffered {features : Stanza} {c₁ : Connection} (greets : Greets config c features c₁)
      (begins : features.is "features" Namespace.stream) (missing : ¬ Offers features) :
      Refuses config c (.tls (.notOffered features)) (c.opening config.header)
  | proceed {features : Stanza} {reads : List Bytes} {c₁ c' : Connection} {why : ConnectionFault}
      (greets : Greets config c features c₁) (offers : Offers features)
      (heard : Heard c₁ reads [] c') (missing : c'.inbox = []) (stops : c'.Stops .proceed why) :
      Refuses config c why (c.opening config.header ++ [requestText])
  | rejected {features reply : Stanza} {reads : List Bytes} {c₁ c₂ : Connection}
      (greets : Greets config c features c₁) (offers : Offers features)
      (heard : Heard c₁ reads [reply] c₂) (failure : reply.is "failure" Namespace.tls) :
      Refuses config c (.tls .rejected) (c.opening config.header ++ [requestText])
  | other {features reply : Stanza} {reads : List Bytes} {c₁ c₂ : Connection}
      (greets : Greets config c features c₁) (offers : Offers features)
      (heard : Heard c₁ reads [reply] c₂) (noProceed : ¬ reply.is "proceed" Namespace.tls)
      (noFailure : ¬ reply.is "failure" Namespace.tls) :
      Refuses config c (.unexpected (.proceed reply)) (c.opening config.header ++ [requestText])

/-- The server offers TLS, and says to proceed where the client asks for it. -/
structure Agrees (config : Config) (c c₂ : Connection) : Prop where
  agrees : ∃ features reply reads c₁, Greets config c features c₁ ∧ Offers features
    ∧ Heard c₁ reads [reply] c₂ ∧ reply.is "proceed" Namespace.tls
  texts : c.textsTo c₂ = c.opening config.header ++ [requestText]

section
variable {config : Config} {c c₁ c₂ : Connection} {features reply : Stanza}

theorem ask_apply (config : Config) (c : Connection) : ask config c =
    (greet config >>= fun features => expectFeatures features >>= negotiate) c := by
  unfold ask greet
  rw [Act.bind_assoc, Act.discard_bind]
  simp only [Act.discard_bind, Act.bind_assoc]

theorem offered_iff :
    offered features ↔ ∃ child ∈ features.children, child.is "starttls" Namespace.tls := by
  rw [offered, offer?, Node.childIn?, List.find?_isSome]

theorem negotiate_of_not_offered (missing : ¬ offered features) :
    negotiate features c = (.failed (.tls (.notOffered features)), c) := by
  unfold negotiate
  rw [if_pos (by simpa using missing)]
  rfl

def judge (reply : Stanza) : Act Connection ConnectionFault Unit :=
  if reply.kind = .proceed then pure ()
  else if reply.kind = .tlsFailure then Act.fail (.tls .rejected)
  else Act.fail (.unexpected (.proceed reply))

theorem negotiate_of_offered (works : c.Works) (there : offered features) :
    negotiate features c =
      (recv.within (.timeout .proceed) >>= judge) (c.writing (requestFrame.write c.defaultNs)) := by
  unfold negotiate
  rw [if_neg (by simp [there])]
  refine (Act.bind_of_ready (send_eq works requestFrame) _).trans ?_
  refine congrFun (bind_congr fun reply => ?_) _
  rw [judge]
  cases reply.kind <;> rfl

theorem write_requestFrame (unnamed : c.defaultNs = none) (config : Config) :
    requestFrame.write (c.named config.header).defaultNs = requestText := by
  have around : (c.named config.header).defaultNs = some Namespace.client
      ∨ (c.named config.header).defaultNs = none := by
    unfold named
    split_ifs
    · exact .inl rfl
    · exact .inr unnamed
  rcases around with named | unnamed
  · rw [named]
    decide +kernel
  · rw [unnamed]
    decide +kernel

/-- How the conversation in the clear ends: both sides agree, or the client goes no further. -/
inductive Asked (config : Config) (c : Connection) :
    Awaited ConnectionFault Unit × Connection → Prop where
  | agrees {c₂ : Connection} (agrees : Agrees config c c₂) : Asked config c (.ready (), c₂)
  | refuses {why : ConnectionFault} {texts : List String} {c' : Connection}
      (refuses : Refuses config c why texts) (wrote : c.textsTo c' = texts) :
      Asked config c (.failed why, c')

theorem asked_of_offers (works : c₁.Works) (fine : c₁.reader.fault = none)
    (unnamed : c.defaultNs = none)
    (wrote : Wrote (c.named config.header) (c.opening config.header) c₁)
    (greets : Greets config c features c₁) (offers : Offers features) :
    Asked config c (negotiate features c₁) := by
  have request : requestFrame.write c₁.defaultNs = requestText := by
    rw [wrote.defaultNs, write_requestFrame unnamed]
  rw [negotiate_of_offered works (offered_iff.2 offers.2), request]
  have asks := Heard.writing fine requestText
  -- All that follows the request is reading, so the texts are the same whatever comes of it.
  have wrote := (wrote.trans (wrote_writing c₁ requestText)).trans (wrote_recv _)
  rw [List.append_nil] at wrote
  obtain ⟨reads, ⟨reply, c₂, ready, heard⟩ | ⟨c', why, failed, heard, missing, stops⟩⟩ :=
    recv_within asks.fine .proceed
  · have last : (c₁.writing requestText).recv.2 = c₂ := congrArg Prod.snd ready
    rw [last] at wrote
    have heard : Heard c₁ reads [reply] c₂ := asks.trans heard
    have texts := textsTo_named wrote
    rw [Act.bind_of_ready ready, judge]
    split_ifs with proceed failure
    · have proceed := Stanza.kind_proceed.1 proceed
      exact .agrees ⟨⟨features, reply, reads, c₁, greets, offers, heard, proceed⟩, texts⟩
    · exact .refuses (.rejected greets offers heard (Stanza.kind_tlsFailure.1 failure)) texts
    · have noProceed := mt Stanza.kind_proceed.2 proceed
      have noFailure := mt Stanza.kind_tlsFailure.2 failure
      exact .refuses (.other greets offers heard noProceed noFailure) texts
  · rw [Act.bind_of_failed failed]
    have heard : Heard c₁ reads [] c' := asks.trans heard
    exact .refuses (.proceed greets offers heard missing stops) (textsTo_named wrote)

theorem wrote_greet (works : c.Works) (fine : c.reader.fault = none) (config : Config) :
    Wrote (c.named config.header) (c.opening config.header) (greet config c).2 := by
  obtain ⟨c₀, sent, wrote, -⟩ := wrote_sendOpen works fine config.header
  rw [greet, Act.bind_of_ready sent, Act.discard_bind, ← List.append_nil (c.opening _)]
  refine wrote.trans (Act.bind_keeps (R := (Wrote · [] ·)) ?_ ?_ fun _ c' => wrote_recv c')
  · intro a b c h h'
    exact h.trans h'
  · exact wrote_recvOpen c₀

theorem greet_cases (works : c.Works) (fine : c.reader.fault = none) (unknown : c.header = none)
    (config : Config) :
    (∃ first c₁, Greets config c first c₁ ∧ c₁.reader.fault = none)
      ∨ ∃ why c', greet config c = (.failed why, c')
        ∧ Refuses config c why (c.opening config.header) := by
  obtain ⟨c₀, sent, -, begun, same⟩ := wrote_sendOpen works fine config.header
  have reader : c₀.reader = c.reader := begun.reader
  have runs : greet config c = (recvOpen.within (.timeout .header) >>= fun _ =>
      recv.within (.timeout .features) : Act _ _ _) c₀ := by
    rw [greet, Act.bind_of_ready sent, Act.discard_bind]
  obtain ⟨reads, ⟨known, c₁, opened, heard, headed⟩ | ⟨c', why, failed, heard, headless, stops⟩⟩ :=
    recvOpen_within begun.fine (same.trans unknown) .header
  · rw [reader] at headed
    have heard : Heard c reads [] c₁ := begun.trans heard
    rw [Act.bind_of_ready opened] at runs
    obtain ⟨more, features⟩ := recv_within heard.fine .features
    have headed : c.reader.BringsHeader (reads ++ more) :=
      Reader.bringsHeader_append.2 (.inl headed)
    -- With the header there, the first stanza comes, or the wait for it is in vain.
    rcases features with ⟨first, c₂, ready, heard'⟩ | ⟨c', why, failed, heard', missing, stops⟩
    · rw [ready] at runs
      have wrote := wrote_greet works fine config
      rw [runs] at wrote
      exact .inl ⟨first, c₂, ⟨runs, ⟨_, heard.trans heard', headed⟩, textsTo_named wrote⟩,
        heard'.fine⟩
    · exact .inr ⟨why, _, runs.trans failed, .features (heard.trans heard') headed missing stops⟩
  · rw [reader] at headless
    rw [Act.bind_of_failed failed] at runs
    exact .inr ⟨why, _, runs, .header (begun.trans heard) headless stops⟩

theorem asked_of_ask (works : c.Works) (fine : c.reader.fault = none) (unknown : c.header = none)
    (unnamed : c.defaultNs = none) (config : Config) : Asked config c (ask config c) := by
  have wrote := wrote_greet works fine config
  rw [ask_apply]
  rcases greet_cases works fine unknown config with
    ⟨first, c₁, greets, fine₁⟩ | ⟨why, c', failed, refuses⟩
  · rw [greets.runs] at wrote
    rw [Act.bind_of_ready greets.runs, expectFeatures]
    split_ifs with kind
    · rw [Act.bind_of_ready (Act.pure_apply first c₁)]
      have begins := Stanza.kind_streamFeatures.1 kind
      by_cases there : offered first
      · exact asked_of_offers (wrote.works works) fine₁ unnamed wrote greets
          ⟨begins, offered_iff.1 there⟩
      · rw [negotiate_of_not_offered there]
        have missing : ¬ Offers first := fun offers => there (offered_iff.2 offers.2)
        exact .refuses (.notOffered greets begins missing) greets.texts
    · exact .refuses (.unexpected greets (mt Stanza.kind_streamFeatures.2 kind)) greets.texts
  · rw [Act.bind_of_failed failed]
    rw [failed] at wrote
    exact .refuses refuses (textsTo_named wrote)

end

/-- The client hands over to TLS only by consent, whatever the peer sends and however it comes in
reads. Either the conversation in the clear comes to the point where the peer's header was read, the
features that came first offer TLS, and the server says to proceed next; until then our opening was
written and then, after the features, one request, and from there on TLS takes over. Or it ends with
a fault that tells why, and TLS never begins: a read failed or came too late, a stanza was another
than the one awaited, there was no offer, or the server refused. -/
theorem upgrade_only_after_proceed (config : Config) (framing : Framing) (limit : Nat) (wire : Wire)
    (works : ∀ k, wire.trouble k = none) :
    let c : Connection := { wire, reader := Reader.fresh framing limit }
    (∃ c₂, Agrees config c c₂ ∧ ask config c = (.ready (), c₂)
        ∧ ∀ tls, perform tls config c = upgrade tls config.domain config.insecureTls c₂)
      ∨ ∃ why texts c', Refuses config c why texts ∧ c.textsTo c' = texts
        ∧ ask config c = (.failed why, c') ∧ ∀ tls, perform tls config c = (.failed why, c') := by
  intro c
  have works : c.Works := works
  have asked := asked_of_ask works rfl rfl rfl config
  generalize ran : ask config c = result at asked
  cases asked with
  | agrees agrees => exact .inl ⟨_, agrees, rfl, fun tls => Act.bind_of_ready ran _⟩
  | refuses refuses wrote =>
    exact .inr ⟨_, _, _, refuses, wrote, rfl, fun tls => Act.bind_of_failed ran _⟩

def consentConfig : Config := { domain := "example.com" }

def consentWire : Wire where
  arrivals := [["<stream:stream xmlns:stream=", "'http://etherx."],
    ["jabber.org/streams'>", "<stream:features><starttls ", "xmlns='urn:ietf:params:xml:",
      "ns:xmpp-tls'/></stream:"],
    ["features><proceed xmlns='", "urn:ietf:params:xml:ns:xmpp-tls'/>", "<a/>"]].map fun texts =>
      .bytes (texts.flatMap Utf8.encode)

theorem upgrade_only_after_proceed_consentWire :
    let c : Connection := { wire := consentWire, reader := Reader.fresh .stream 200 }
    (∀ k, consentWire.trouble k = none)
      ∧ ∃ c₂, Agrees consentConfig c c₂ ∧ c₂.inbox = [{ name := "a" }]
        ∧ ∀ tls, perform tls consentConfig c = upgrade tls "example.com" false c₂ := by
  intro c
  have works : ∀ k, consentWire.trouble k = none := fun _ => rfl
  have ready : (ask consentConfig c).1 = .ready ()
      ∧ (ask consentConfig c).2.inbox = [{ name := "a" }] := by decide +kernel
  rcases upgrade_only_after_proceed consentConfig .stream 200 consentWire works with
    ⟨c₂, agrees, ran, hands⟩ | ⟨why, texts, c', -, -, failed, -⟩
  · have left : c₂.inbox = [{ name := "a" }] := by rw [← ready.2, ran]
    exact ⟨works, c₂, agrees, left, hands⟩
  · rw [failed] at ready
    cases ready.1

/-- Without a wrapper there is no header to wait for, so that TLS never begins. -/
theorem not_agrees_standalone (config : Config) (limit : Nat) (wire : Wire) (c₂ : Connection) :
    ¬ Agrees config { wire, reader := Reader.fresh .standalone limit } c₂ := by
  intro agrees
  obtain ⟨_, _, _, _, greets, -⟩ := agrees.agrees
  obtain ⟨reads, -, known, brought⟩ := greets.heard
  obtain ⟨ss, events⟩ := ((Reader.Tells.fresh .standalone limit).pushAll reads).fits.grammar
  rw [List.nil_append] at events
  rw [events] at brought
  simp at brought

end StartTls
end XmppStream
