import XmppStream.Proofs.Connection.Restart

/-! Signing in goes through its phases in order: a stream is opened, the client authenticates by what
the stream offers, and the stream is opened once more. Of the first stream nothing is carried over
into the second. -/

namespace XmppStream
open Connection Authenticate

variable {τ : Type}

theorem Awaited.exists_ready {ε α : Type} {outcome : Awaited ε α} (h : outcome.value?.isSome) :
    ∃ a, outcome = .ready a := by
  cases outcome with
  | ready a => exact ⟨a, rfl⟩
  | failed => cases h
  | waiting => cases h

/-- What passes on the first stream of a client that signs in: the features, the client's frames and
the server's. -/
structure Passage where
  features : Stanza
  frames : List Stanza
  replies : List Stanza

def Passage.Granted (p : Passage) (e : Exchange) (source : CredentialSource τ) (t : τ) : Prop :=
  ∃ first begun t' more, p.frames = first :: more
    ∧ e.start (Exchange.offeredBy p.features) source t = (.ok first, begun, t')
    ∧ begun.answers p.replies = more.map (fun next => .ok (.send next)) ++ [.ok .done]
    ∧ (begun.handleAll p.replies).outcome = .succeeded

/-- The client signs in from the connection `c`, and `c'` is the connection before the restart. What
it takes is what the peer sends first. -/
structure Passage.SignsIn (p : Passage) (config : Config) (shutdown : Nat → Bool) (e : Exchange)
    (source : CredentialSource τ) (t : τ) (c c' : Connection) : Prop where
  begins : p.features.kind = .streamFeatures
  runs : ∃ c₁, openStream config.header c = (.ready p.features, c₁)
    ∧ authenticate channel shutdown e (Exchange.offeredBy p.features) source t c₁ = (.ready (), c')
  granted : p.Granted e source t
  takes : c.unread = p.features :: p.replies ++ c'.unread

section
variable {config : Config} {shutdown : Nat → Bool} {e : Exchange} {source : CredentialSource τ}
  {t : τ} {c c₁ c₂ : Connection} {features : Stanza}

theorem authenticate_granted {offered : List String}
    (granted : authenticate channel shutdown e offered source t c = (.ready (), c₁)) :
    ∃ first begun t' more replies, e.start offered source t = (.ok first, begun, t')
      ∧ Rounds channel c (first :: more) replies c₁ ∧ begun.Grants replies more := by
  rcases started : e.start offered source t with ⟨_ | first, begun, t'⟩
  · rw [authenticate_of_refused started] at granted
    cases granted
  · rw [authenticate_of_started started] at granted
    obtain ⟨more, replies, rounds, grants⟩ := converse_granted granted
    exact ⟨first, begun, t', more, replies, rfl, rounds, grants⟩

theorem signIn_of_granted (opened : openStream config.header c = (.ready features, c₁))
    (granted : authenticate channel shutdown e (Exchange.offeredBy features) source t c₁ =
      (.ready (), c₂)) :
    signIn config shutdown e source t c =
      (openStream config.header).mapFault Fault.connection c₂.reset := by
  have reset : (Act.update fun c => ((), c.reset) : Act Connection Fault Unit) c₂ =
      (.ready (), c₂.reset) := rfl
  rw [signIn, Act.bind_of_ready (Act.mapFault_of_ready opened _),
    Act.bind_of_ready (Act.mapFault_of_ready granted _), Act.bind_of_ready reset]

theorem signIn_ready (signed : signIn config shutdown e source t c = (.ready features, c₁)) :
    ∃ features' c₂ c₃, openStream config.header c = (.ready features', c₂)
      ∧ authenticate channel shutdown e (Exchange.offeredBy features') source t c₂ = (.ready (), c₃)
      ∧ openStream config.header c₃.reset = (.ready features, c₁) := by
  rw [signIn] at signed
  obtain ⟨features', c₂, opened, signed⟩ := Act.ready_of_bind signed
  obtain ⟨_, c₃, granted, signed⟩ := Act.ready_of_bind signed
  obtain ⟨_, c₄, reset, signed⟩ := Act.ready_of_bind signed
  cases reset
  exact ⟨features', c₂, c₃, Act.ready_of_mapFault opened, Act.ready_of_mapFault granted,
    Act.ready_of_mapFault signed⟩

end

section
variable (config : Config) (encrypted : Bool) (clientNonce : String) (shutdown : Nat → Bool)
  (source : CredentialSource τ) (t : τ)

theorem login_apply (c : Connection) : login config encrypted clientNonce shutdown source t c =
    (signIn config shutdown (Exchange.fresh (config.authOptions encrypted) clientNonce) source t >>=
      fun features => Act.look fun connection =>
        { connection, features, policy := config.management.ackPolicy }) c := rfl

variable {config encrypted clientNonce shutdown source t}

theorem signIn_of_login {c c' : Connection} {session : Session}
    (h : login config encrypted clientNonce shutdown source t c = (.ready session, c')) :
    session.connection = c' ∧ signIn config shutdown
      (Exchange.fresh (config.authOptions encrypted) clientNonce) source t c =
        (.ready session.features, c') := by
  rw [login_apply] at h
  obtain ⟨features, c'', signed, looked⟩ := Act.ready_of_bind h
  cases looked
  exact ⟨rfl, signed⟩

end

def Passage.EndsIn (p : Passage) (r : Reader) (before : List Bytes) (x : Bytes) : Prop :=
  p.features :: p.replies <+: r.stanzas (before ++ [x])
    ∧ ¬ p.features :: p.replies <+: r.stanzas before

instance (p : Passage) (r : Reader) (before : List Bytes) (x : Bytes) :
    Decidable (p.EndsIn r before x) := inferInstanceAs (Decidable (_ ∧ _))

def Framing.texts (framing : Framing) (header : Header) (frames : List Stanza) : List String :=
  framing.openText header :: frames.map (·.write (framing.around header))

def Passage.restarted (p : Passage) (config : Config) (c : Connection) (left : List Arrival) :
    Connection where
  wire := { c.wire with
    arrivals := left
    writes := c.wire.writes + (config.framing.texts config.header p.frames).length
    sent := (config.framing.texts config.header p.frames).reverse ++ c.wire.sent }
  reader := c.reader.reset
  defaultNs := config.framing.around config.header

structure Starts (config : Config) (c : Connection) : Prop where
  works : c.Works
  framed : config.framing ≠ .standalone
  framing : c.reader.framing = config.framing
  defaultNs : c.defaultNs = none ∨ c.defaultNs = config.framing.around config.header

section
variable {config : Config} {shutdown : Nat → Bool} {e : Exchange} {source : CredentialSource τ}
  {t : τ} {c c₁ c₂ : Connection} {features : Stanza}

theorem starts_connection {wire : Wire} (works : ∀ k, wire.trouble k = none)
    (framed : config.framing ≠ .standalone) : Starts config (config.connection wire) :=
  ⟨works, framed, rfl, .inl rfl⟩

theorem Starts.reader_framed (h : Starts config c) : c.reader.framing ≠ .standalone := by
  rw [h.framing]
  exact h.framed

theorem Starts.named (h : Starts config c) :
    (c.named config.header).defaultNs = config.framing.around config.header := by
  unfold Connection.named
  rw [h.framing]
  rcases h.defaultNs with none_ | named
  · rw [none_]
    cases config.framing <;> rfl
  · rw [named]
    cases config.framing <;> rfl

theorem Starts.wrote_openStream (h : Starts config c) : Wrote (c.named config.header)
    [config.framing.openText config.header] (openStream config.header c).2 := by
  rw [← h.framing]
  exact Connection.wrote_openStream h.works h.reader_framed _

theorem Starts.after (h : Starts config c) {texts : List String}
    (wrote : Wrote (c.named config.header) texts c₁) : Starts config c₁.reset :=
  ⟨wrote.works h.works, h.framed, (congrArg Reader.framing wrote.reset).trans h.framing,
    .inr (wrote.defaultNs.trans h.named)⟩

theorem Starts.wrote_rounds (h : Starts config c)
    (opened : openStream config.header c = (.ready features, c₁)) {frames replies : List Stanza}
    (rounds : Rounds channel c₁ frames replies c₂) :
    Wrote (c.named config.header) (config.framing.texts config.header frames) c₂ := by
  have first := h.wrote_openStream
  rw [opened] at first
  have second := Connection.wrote_rounds (first.works h.works) rounds
  rw [first.defaultNs, h.named] at second
  exact first.trans second

theorem Starts.passage (h : Starts config c)
    (opened : openStream config.header c = (.ready features, c₁))
    (granted : authenticate channel shutdown e (Exchange.offeredBy features) source t c₁ =
      (.ready (), c₂)) :
    ∃ p : Passage, p.SignsIn config shutdown e source t c c₂
      ∧ Wrote (c.named config.header) (config.framing.texts config.header p.frames) c₂ := by
  obtain ⟨first, begun, t', more, replies, started, rounds, grants⟩ := authenticate_granted granted
  refine ⟨⟨features, first :: more, replies⟩, ⟨?_, ⟨c₁, opened, granted⟩, ?_, ?_⟩,
    h.wrote_rounds opened rounds⟩
  · exact (openStream_ready h.works h.reader_framed opened).1
  · exact ⟨first, begun, t', more, rfl, started, (Exchange.grants_iff _ _ _).1 grants,
      grants.succeeded⟩
  · exact ((gives_openStream h.works h.reader_framed opened).trans (gives_rounds rounds)).unread

/-- The connection after the restart does not depend on what came behind the last frame of the first
stream, in the same read. -/
theorem Starts.reset_eq (h : Starts config c) {p : Passage} (granted : p.Granted e source t)
    {x y : Bytes} {after : List Arrival}
    (wants : Wants x y after True (p.features :: p.replies) c)
    (opened : openStream config.header c = (.ready features, c₁))
    (authenticated : authenticate channel shutdown e (Exchange.offeredBy features) source t c₁ =
      (.ready (), c₂)) : c₂.reset = p.restarted config c after := by
  obtain ⟨rfl, wants⟩ := wants.openStream h.works h.reader_framed opened
  obtain ⟨first, begun, t', more, frames, started, answered, -⟩ := granted
  obtain ⟨first', begun', _, more', replies, started', rounds, grants⟩ :=
    authenticate_granted authenticated
  cases started.symm.trans started'
  have works : c₁.Works := by
    have wrote := h.wrote_openStream
    rw [opened] at wrote
    exact wrote.works h.works
  obtain ⟨rfl, rfl, nothing⟩ :=
    wants.rounds works rounds ((Exchange.grants_iff _ _ _).2 answered) grants
  have wrote := h.wrote_rounds opened rounds
  rw [wrote.reset_eq, h.named, nothing.arrivals_of_nil, ← frames]
  rfl

theorem Starts.wrote_again (h : Starts config c) {texts : List String}
    (wrote : Wrote (c.named config.header) texts c₁) :
    c.textsTo (openStream config.header c₁.reset).2 =
      texts ++ [config.framing.openText config.header] := by
  have again := h.after wrote
  have second := again.wrote_openStream
  have same : (c₁.reset.named config.header).defaultNs = c₁.defaultNs :=
    again.named.trans (wrote.defaultNs.trans h.named).symm
  exact textsTo_named (wrote.trans ⟨second.wire, second.defaultNs.trans same, second.reset⟩)

theorem Starts.reopened (h : Starts config c) {texts : List String}
    (wrote : Wrote (c.named config.header) texts c₁)
    (opened : openStream config.header c₁.reset = (.ready features, c₂)) :
    c.textsTo c₂ = texts ++ [config.framing.openText config.header]
      ∧ features.kind = .streamFeatures ∧ c₁.reset.unread = features :: c₂.unread := by
  have again := h.after wrote
  have texts := h.wrote_again wrote
  rw [opened] at texts
  exact ⟨texts, (openStream_ready again.works again.reader_framed opened).1,
    (gives_openStream again.works again.reader_framed opened).unread⟩

end

section
variable {config : Config} {encrypted : Bool} {clientNonce : String} {shutdown : Nat → Bool}
  {source : CredentialSource τ} {t : τ} {c c' : Connection}

theorem Starts.phases (h : Starts config c) {session : Session}
    (signed : login config encrypted clientNonce shutdown source t c = (.ready session, c')) :
    ∃ (p : Passage) (c₁ : Connection),
      p.SignsIn config shutdown (Exchange.fresh (config.authOptions encrypted) clientNonce) source t c
          c₁
        ∧ c.textsTo c' = config.framing.texts config.header p.frames
          ++ [config.framing.openText config.header]
        ∧ session.features.kind = .streamFeatures
        ∧ c₁.reset.unread = session.features :: c'.unread ∧ session.connection = c' := by
  obtain ⟨same, signed⟩ := signIn_of_login signed
  obtain ⟨features, c₁, c₂, opened, granted, again⟩ := signIn_ready signed
  obtain ⟨p, signs, wrote⟩ := h.passage opened granted
  obtain ⟨texts, kind, unread⟩ := h.reopened wrote again
  exact ⟨p, c₂, signs, texts, kind, unread, same⟩

theorem Starts.login_restarted (h : Starts config c) {p : Passage}
    (granted : p.Granted (Exchange.fresh (config.authOptions encrypted) clientNonce) source t)
    {x y : Bytes} {after : List Arrival}
    (wants : Wants x y after True (p.features :: p.replies) c) {session : Session}
    (signed : (login config encrypted clientNonce shutdown source t c).1 = .ready session) :
    login config encrypted clientNonce shutdown source t c =
      ((openStream config.header).mapFault Fault.connection >>= fun features =>
        Act.look fun connection =>
          { connection, features, policy := config.management.ackPolicy : Session })
        (p.restarted config c after) := by
  have ready : login config encrypted clientNonce shutdown source t c =
      (.ready session, (login config encrypted clientNonce shutdown source t c).2) :=
    Prod.ext signed rfl
  obtain ⟨-, signed'⟩ := signIn_of_login ready
  obtain ⟨features, c₁, c₂, opened, authenticated, -⟩ := signIn_ready signed'
  rw [login_apply, Act.bind_apply, Act.bind_apply, Act.andThen, Act.andThen,
    signIn_of_granted opened authenticated, h.reset_eq granted wants opened authenticated]

end

theorem Exchange.authFrame_of_start {e begun : Exchange} {offered : List String}
    {source : CredentialSource τ} {t t' : τ} {first : Stanza}
    (started : e.start offered source t = (.ok first, begun, t')) :
    ∃ m text, select? e.options offered = some m ∧ m.name ∈ offered ∧ first = authFrame m text := by
  have cases_ := e.start_cases offered source t
  rw [started] at cases_
  rcases cases_ with ⟨m, username, password, -, -, chosen, -, begins, -⟩ | ⟨why, refused, -⟩
  · cases begins
    cases m with
    | plain => exact ⟨.plain, _, chosen, (select?_eq_plain chosen).2.1, rfl⟩
    | digestMd5 => exact ⟨.digestMd5, _, chosen, select?_eq_digestMd5 chosen, rfl⟩
  · cases refused

/-- Features were read when our header alone was written, they offer a mechanism that can be used,
and the frame that begins the exchange was written next. -/
def Offered (config : Config) (encrypted : Bool) (c c' : Connection) : Prop :=
  ∃ features c₁ m text, openStream config.header c = (.ready features, c₁)
    ∧ c.textsTo c₁ = [config.framing.openText config.header]
    ∧ features.kind = .streamFeatures ∧ c.unread = features :: c₁.unread
    ∧ Exchange.select? (config.authOptions encrypted) (Exchange.offeredBy features) = some m
    ∧ m.name ∈ Exchange.offeredBy features
    ∧ config.framing.texts config.header [Exchange.authFrame m text] <+: c.textsTo c'

section
variable {config : Config} {encrypted : Bool} {clientNonce : String} {shutdown : Nat → Bool}
  {source : CredentialSource τ} {t : τ} {c c₁ c' : Connection} {features : Stanza}

theorem Starts.offered (h : Starts config c)
    (opened : openStream config.header c = (.ready features, c₁)) {first begun : _} {t' : τ}
    (started : (Exchange.fresh (config.authOptions encrypted) clientNonce).start
      (Exchange.offeredBy features) source t = (.ok first, begun, t'))
    {frames : List Stanza} {more : List String}
    (wrote : c.textsTo c' = config.framing.texts config.header (first :: frames) ++ more) :
    Offered config encrypted c c' := by
  obtain ⟨m, text, chosen, listed, rfl⟩ := Exchange.authFrame_of_start started
  have header := h.wrote_openStream
  rw [opened] at header
  refine ⟨features, c₁, m, text, opened, textsTo_named header,
    (openStream_ready h.works h.reader_framed opened).1,
    (gives_openStream h.works h.reader_framed opened).unread, chosen, listed, ?_⟩
  rw [wrote]
  exact ⟨frames.map (·.write (config.framing.around config.header)) ++ more, rfl⟩

theorem login_snd : (login config encrypted clientNonce shutdown source t c).2 =
    (signIn config shutdown (Exchange.fresh (config.authOptions encrypted) clientNonce) source t
      c).2 := by
  rw [login_apply, Act.bind_apply, Act.andThen]
  generalize signIn config shutdown _ source t c = result
  obtain ⟨outcome, last⟩ := result
  cases outcome <;> rfl

theorem login_of_unopened (unopened : ∀ features, (openStream config.header c).1 ≠ .ready features) :
    (login config encrypted clientNonce shutdown source t c).2 = (openStream config.header c).2 := by
  rw [login_snd, signIn, Act.bind_apply, Act.andThen, Act.mapFault]
  generalize openStream config.header c = result at unopened ⊢
  obtain ⟨outcome, last⟩ := result
  cases outcome with
  | ready features => exact absurd rfl (unopened features)
  | failed => rfl
  | waiting => rfl

theorem login_of_ungranted (opened : openStream config.header c = (.ready features, c₁))
    (ungranted : (authenticate channel shutdown
      (Exchange.fresh (config.authOptions encrypted) clientNonce) (Exchange.offeredBy features)
      source t c₁).1 ≠ .ready ()) :
    (login config encrypted clientNonce shutdown source t c).2 = (authenticate channel shutdown
      (Exchange.fresh (config.authOptions encrypted) clientNonce) (Exchange.offeredBy features)
      source t c₁).2 := by
  rw [login_snd, signIn, Act.bind_of_ready (Act.mapFault_of_ready opened _), Act.bind_apply,
    Act.andThen, Act.mapFault]
  generalize authenticate channel shutdown _ _ source t c₁ = result at ungranted ⊢
  obtain ⟨outcome, last⟩ := result
  cases outcome with
  | ready => exact absurd rfl ungranted
  | failed => rfl
  | waiting => rfl

theorem login_of_granted {c₂ : Connection}
    (opened : openStream config.header c = (.ready features, c₁))
    (granted : authenticate channel shutdown
      (Exchange.fresh (config.authOptions encrypted) clientNonce) (Exchange.offeredBy features)
      source t c₁ = (.ready (), c₂)) :
    (login config encrypted clientNonce shutdown source t c).2 =
      (openStream config.header c₂.reset).2 := by
  rw [login_snd, signIn_of_granted opened granted]
  rfl

/-- Whatever comes of a login, nothing of the exchange was written before features that offer a
mechanism were read. -/
theorem Starts.login_texts (h : Starts config c) :
    let c' := (login config encrypted clientNonce shutdown source t c).2
    c.textsTo c' = [config.framing.openText config.header] ∨ Offered config encrypted c c' := by
  intro c'
  have header := h.wrote_openStream
  by_cases ready : ∃ features, (openStream config.header c).1 = .ready features
  · obtain ⟨features, ready⟩ := ready
    obtain ⟨c₁, opened⟩ : ∃ c₁, openStream config.header c = (.ready features, c₁) :=
      ⟨_, Prod.ext ready rfl⟩
    rw [opened] at header
    have works : c₁.Works := header.works h.works
    by_cases granted : (authenticate channel shutdown
        (Exchange.fresh (config.authOptions encrypted) clientNonce) (Exchange.offeredBy features)
        source t c₁).1 = .ready ()
    · obtain ⟨c₂, ran⟩ : ∃ c₂, authenticate channel shutdown
          (Exchange.fresh (config.authOptions encrypted) clientNonce)
          (Exchange.offeredBy features) source t c₁ = (.ready (), c₂) := ⟨_, Prod.ext granted rfl⟩
      obtain ⟨first, _, _, more, replies, started, rounds, -⟩ := authenticate_granted ran
      have again := h.wrote_again (h.wrote_rounds opened rounds)
      rw [show c' = _ from login_of_granted opened ran]
      exact .inr (h.offered opened started again)
    · have last : c' = _ := login_of_ungranted opened granted
      rcases started : (Exchange.fresh (config.authOptions encrypted) clientNonce).start
        (Exchange.offeredBy features) source t with ⟨why | first, begun, t'⟩
      · rw [authenticate_of_refused started] at last
        rw [last]
        exact .inl (textsTo_named header)
      · -- The exchange may have written frames, the first of which begins it.
        obtain ⟨sent, front, wrote⟩ := wrote_converse works shutdown 0 begun first
        rw [← authenticate_of_started started, ← last, header.defaultNs, h.named] at wrote
        have texts := textsTo_named (header.trans wrote)
        rcases front with rfl | ⟨more, rfl⟩
        · exact .inl texts
        · exact .inr (h.offered opened started (texts.trans (List.append_nil _).symm))
  · rw [show c' = _ from login_of_unopened (not_exists.1 ready)]
    exact .inl (textsTo_named header)

end

/-- Signing in goes in phases, whatever the peer sends. A session was reached by our header, the
frames of an exchange that succeeded by what came first after the features, and our header again; its
features are what came first after the restart. What came behind the last frame of the exchange, in
the same read, bears on nothing, if the peer's header had come by then. And whatever comes of a
login, nothing but our header was written before features that offer a mechanism were read. -/
theorem login_in_phases (config : Config) (framed : config.framing ≠ .standalone) (encrypted : Bool)
    (clientNonce : String) (shutdown : Nat → Bool) (source : CredentialSource τ) (t : τ) (wire : Wire)
    (works : ∀ k, wire.trouble k = none) :
    let e := Exchange.fresh (config.authOptions encrypted) clientNonce
    let connect (arrivals : List Arrival) := config.connection { wire with arrivals }
    let login := login config encrypted clientNonce shutdown source t
    (∀ arrivals session c', login (connect arrivals) = (.ready session, c') →
      ∃ (p : Passage) (c : Connection), p.SignsIn config shutdown e source t (connect arrivals) c
        ∧ (connect arrivals).textsTo c' = config.framing.texts config.header p.frames
          ++ [config.framing.openText config.header]
        ∧ session.features.kind = .streamFeatures
        ∧ c.reset.unread = session.features :: c'.unread ∧ session.connection = c')
    ∧ (∀ (before : List Bytes) (x y y' : Bytes) (after : List Arrival) (p : Passage) (c : Connection)
        (session session' : Session),
      let reads (z : Bytes) := connect (before.map .bytes ++ .bytes (x ++ z) :: after)
      let reader := Reader.fresh config.framing config.maxStanzaSize
      (∀ data ∈ before, IsRead data) → IsRead (x ++ y) → IsRead (x ++ y') →
      (login (reads y)).1 = .ready session → (login (reads y')).1 = .ready session' →
      p.SignsIn config shutdown e source t (reads y) c →
      p.EndsIn reader before x →
      (config.framing = .webSocket →
        ∃ known, .opened known ∈ (reader.pushAll (before ++ [x])).2) →
      login (reads y) = login (reads y'))
    ∧ ∀ arrivals, let c' := (login (connect arrivals)).2
      (connect arrivals).textsTo c' = [config.framing.openText config.header]
        ∨ Offered config encrypted (connect arrivals) c' := by
  intro e connect login
  have starts (arrivals : List Arrival) : Starts config (connect arrivals) :=
    starts_connection works framed
  refine ⟨fun arrivals session c' signed => (starts arrivals).phases signed, ?_,
    fun arrivals => (starts arrivals).login_texts⟩
  intro before x y y' after p c session session' reads reader reads_ read read' signed signed' signs
    ends opens
  have wants {z : Bytes} (last : IsRead (x ++ z)) :
      Wants x z after True (p.features :: p.replies) (reads z) := by
    refine .ahead before rfl reads_ last ends.1 ends.2 fun _ => .inr ?_
    cases framing : config.framing with
    | standalone => exact absurd framing framed
    | webSocket => exact opens framing
    | stream =>
      refine Reader.opened_of_stanzas framing ?_
      intro none_
      have there := ends.1
      rw [show reader.stanzas (before ++ [x]) = [] from none_, List.prefix_nil] at there
      cases there
  rw [show login (reads y) = _ from (starts _).login_restarted signs.granted (wants read) signed,
    show login (reads y') = _ from (starts _).login_restarted signs.granted (wants read') signed']
  rfl

section
variable (framing : Framing) (arrivals : List Arrival)

def plainConfig : Config := { domain := "example.com", allowPlain := true, framing }

def plainSource : CredentialSource Unit := Credentials.source ⟨some "u", some "p"⟩

def plainExchange : Exchange := Exchange.fresh ((plainConfig framing).authOptions true) "c"

def plainConnection : Connection := (plainConfig framing).connection { arrivals }

def plainGranted : Awaited AuthFault Unit × Connection :=
  authenticate channel (fun _ => false) (plainExchange framing) ["PLAIN"] plainSource ()
    (openStream (plainConfig framing).header (plainConnection framing arrivals)).2

end

def featuresWith (child : Stanza) : Stanza :=
  { name := "features", ns := Namespace.stream, children := [child] }

def plainPassage : Passage where
  features := featuresWith { name := "mechanisms", ns := Namespace.sasl, children := [
    { name := "mechanism", ns := Namespace.sasl, text := some "PLAIN" }] }
  frames := [Exchange.authFrame .plain (some (Exchange.plainText "u" "p"))]
  replies := [{ name := "success", ns := Namespace.sasl }]

-- The texts stand in short pieces, which are evaluated faster than one long text.

def plainReplies : Bytes :=
  ["<features xmlns='http://", "etherx.jabber.org/streams'>", "<mechanisms xmlns='urn:ietf:",
    "params:xml:ns:xmpp-sasl'>", "<mechanism>PLAIN</mechanism>", "</mechanisms></features>",
    "<success xmlns='urn:ietf:", "params:xml:ns:xmpp-sasl'/>"].flatMap Utf8.encode

def streamOpen : Bytes :=
  ["<stream:stream xmlns:stream=", "'http://etherx.jabber.org/", "streams'>"].flatMap Utf8.encode

def webSocketOpen : Bytes :=
  ["<open xmlns='urn:ietf:", "params:xml:ns:xmpp-framing'/>"].flatMap Utf8.encode

def featuresText (name : String) : Bytes :=
  ["<features xmlns='http://", "etherx.jabber.org/streams'>", "<", name, " xmlns='urn:x'/>",
    "</features>"].flatMap Utf8.encode

def PlainGranted (framing : Framing) (arrivals : List Arrival) : Prop :=
  (openStream (plainConfig framing).header (plainConnection framing arrivals)).1 =
      .ready plainPassage.features
    ∧ (plainGranted framing arrivals).1 = .ready ()
    ∧ (plainConnection framing arrivals).unread =
      plainPassage.features :: plainPassage.replies ++ (plainGranted framing arrivals).2.unread

instance (framing : Framing) (arrivals : List Arrival) : Decidable (PlainGranted framing arrivals) :=
  inferInstanceAs (Decidable (_ ∧ _ ∧ _))

theorem plainPassage_signsIn {framing : Framing} {arrivals : List Arrival}
    (h : PlainGranted framing arrivals) : plainPassage.SignsIn (plainConfig framing) (fun _ => false)
      (plainExchange framing) plainSource () (plainConnection framing arrivals)
      (plainGranted framing arrivals).2 := by
  obtain ⟨opened, granted, takes⟩ := h
  refine ⟨by decide, ⟨_, Prod.ext opened rfl, Prod.ext granted rfl⟩, ?_, takes⟩
  exact ⟨_, { plainExchange framing with phase := .plainSent }, (), [], rfl, rfl, rfl, rfl⟩

/-- A close behind the grant is dropped, like the beginning of a tag there. -/
theorem login_in_phases_closedBehind :
    let reads (z : Bytes) := [streamOpen].map .bytes
      ++ .bytes (plainReplies ++ z) :: [.bytes (streamOpen ++ featuresText "a")]
    let login (arrivals : List Arrival) := login (plainConfig .stream) true "c" (fun _ => false)
      plainSource () (plainConnection .stream arrivals)
    Framing.stream ≠ .standalone ∧ (∀ k, ({} : Wire).trouble k = none)
      ∧ login (reads (Utf8.encode "</stream:stream>")) = login (reads (Utf8.encode "<a")) := by
  intro reads login
  have framed : Framing.stream ≠ .standalone := by decide
  have works : ∀ k, ({} : Wire).trouble k = none := fun _ => rfl
  obtain ⟨-, alike, -⟩ := login_in_phases (plainConfig .stream) framed true "c" (fun _ => false)
    plainSource () {} works
  have runs : (login (reads (Utf8.encode "</stream:stream>"))).1.value?.isSome
      ∧ (login (reads (Utf8.encode "<a"))).1.value?.isSome
      ∧ PlainGranted .stream (reads (Utf8.encode "</stream:stream>"))
      ∧ plainPassage.EndsIn (Reader.fresh .stream Reader.defaultLimit) [streamOpen] plainReplies
      ∧ (∀ data ∈ [streamOpen], IsRead data)
      ∧ IsRead (plainReplies ++ Utf8.encode "</stream:stream>")
      ∧ IsRead (plainReplies ++ Utf8.encode "<a") := by decide +kernel
  obtain ⟨ready, ready', granted, ends, before, read, read'⟩ := runs
  obtain ⟨session, signed⟩ := Awaited.exists_ready ready
  obtain ⟨session', signed'⟩ := Awaited.exists_ready ready'
  exact ⟨framed, works, alike [streamOpen] plainReplies _ _ _ plainPassage _ session session' before
    read read' signed signed' (plainPassage_signsIn granted) ends nofun⟩

/-- A client may go past the end of the first stream where the peer's header is still to come: it
reads on for a header when all that it takes of that stream is there. -/
theorem not_login_alike_without_header : ¬ ∀ (config : Config) (encrypted : Bool)
    (clientNonce : String) (source : CredentialSource Unit) (before : List Bytes) (x y y' : Bytes)
    (after : List Arrival) (p : Passage) (c : Connection) (session session' : Session),
    let e := Exchange.fresh (config.authOptions encrypted) clientNonce
    let reads (z : Bytes) :=
      config.connection { arrivals := before.map .bytes ++ .bytes (x ++ z) :: after }
    let login := login config encrypted clientNonce (fun _ => false) source ()
    config.framing ≠ .standalone →
    (∀ data ∈ before, IsRead data) → IsRead (x ++ y) → IsRead (x ++ y') →
    (login (reads y)).1 = .ready session → (login (reads y')).1 = .ready session' →
    p.SignsIn config (fun _ => false) e source () (reads y) c →
    p.EndsIn (Reader.fresh config.framing config.maxStanzaSize) before x →
    session.features = session'.features := by
  intro alike
  let reads (z : Bytes) : List Arrival := [].map .bytes ++ .bytes (plainReplies ++ z) ::
    [.bytes (webSocketOpen ++ featuresText "a"), .bytes (webSocketOpen ++ featuresText "b")]
  let login (arrivals : List Arrival) := login (plainConfig .webSocket) true "c" (fun _ => false)
    plainSource () (plainConnection .webSocket arrivals)
  have runs : (login (reads [])).1.value?.map Session.features =
        some (featuresWith { name := "b", ns := "urn:x" })
      ∧ (login (reads webSocketOpen)).1.value?.map Session.features =
        some (featuresWith { name := "a", ns := "urn:x" })
      ∧ PlainGranted .webSocket (reads [])
      ∧ plainPassage.EndsIn (Reader.fresh .webSocket Reader.defaultLimit) [] plainReplies
      ∧ IsRead (plainReplies ++ []) ∧ IsRead (plainReplies ++ webSocketOpen) := by decide +kernel
  obtain ⟨features, features', granted, ends, read, read'⟩ := runs
  obtain ⟨session, signed⟩ : ∃ session, (login (reads [])).1 = .ready session :=
    Awaited.exists_ready (by rw [← Option.isSome_map, features]; rfl)
  obtain ⟨session', signed'⟩ : ∃ session, (login (reads webSocketOpen)).1 = .ready session :=
    Awaited.exists_ready (by rw [← Option.isSome_map, features']; rfl)
  have same : session.features = session'.features := alike (plainConfig .webSocket) true "c"
    plainSource [] plainReplies _ _ _ plainPassage _ session session' nofun nofun read read' signed
    signed' (plainPassage_signsIn granted) ends
  rw [signed] at features
  rw [signed'] at features'
  have named := Option.some.inj (features.symm.trans ((congrArg some same).trans features'))
  exact absurd named (by decide)

end XmppStream
