import XmppStream.Proofs.Connection.Opening
import XmppStream.Proofs.Sasl.Conversation

/-! The read that ends a stream. What the peer sends behind the last stanza that is taken before a
restart, in the same read, is dropped. -/

namespace XmppStream

namespace Reader
open Markup

theorem tokens_prefix (front more : Bytes) : ∃ xs, xs <+: (tokens (front ++ more)).1
    ∧ ((tokens front).1 = xs ∨ ∃ raw, (tokens front).1 = xs ++ [⟨.text raw, raw.length⟩]) := by
  by_cases mark : byteOrderMark <+: front
  · have fits : 3 ≤ front.length := mark.length_le
    rw [tokens_of_mark mark, tokens_of_mark (mark.trans (List.prefix_append _ _)),
      List.drop_append_of_le_length fits, lexWhole_append]
    refine ⟨(lex (front.drop 3)).1, List.prefix_append _ _, ?_⟩
    rcases lexWhole_cases (front.drop 3) with same | ⟨-, -, added⟩
    · exact .inl (by rw [same])
    · exact .inr ⟨_, by rw [added]⟩
  · rw [tokens_of_no_mark mark]
    by_cases later : byteOrderMark <+: front ++ more
    · -- The mark itself is cut.
      have cut : front <+: byteOrderMark :=
        (List.prefix_or_prefix_of_prefix (List.prefix_append front more) later).resolve_right mark
      refine ⟨[], List.nil_prefix, .inl ?_⟩
      simp only [byteOrderMark, List.prefix_cons_iff, List.prefix_nil] at cut
      rcases cut with rfl | ⟨_, rfl, rfl | ⟨_, rfl, rfl | ⟨_, rfl, rfl⟩⟩⟩
      · decide +kernel
      · decide +kernel
      · decide +kernel
      · exact absurd (List.prefix_refl _) mark
    · rw [tokens_of_no_mark later, lex_append]
      exact ⟨_, List.prefix_append _ _, .inl rfl⟩

theorem events_text (r : Reader) (raw : Bytes) (size : Nat) :
    (r.step ⟨.text raw, size⟩).2 = [] := by
  rw [step]
  split_ifs
  · rfl
  · cases applied : r.apply (.text raw) with
    | error why => rfl
    | ok taken =>
      rw [apply] at applied
      split at applied
      · cases applied
      · exact (characters_cases applied).1

theorem events_push_prefix (r : Reader) (data more : Bytes) :
    (r.push data).2 <+: (r.push (data ++ more)).2 := by
  cases ready : r.fault with
  | some why =>
    have stopped : r.fault.isSome := by rw [ready]; rfl
    simp [push_of_fault stopped]
  | none =>
    rw [push_eq_settle ready, push_eq_settle ready, settle, settle, ← List.append_assoc]
    dsimp only
    obtain ⟨xs, ⟨ys, whole⟩, front⟩ := tokens_prefix (r.kept ++ data) more
    rw [← whole, steps_append]
    rcases front with same | ⟨raw, added⟩
    · rw [same]
      exact List.prefix_append _ _
    · rw [added, steps_append, steps, steps, events_text]
      simp

def stanzas (r : Reader) (pieces : List Bytes) : List Stanza :=
  (r.pushAll pieces).2.filterMap Event.stanza?

theorem stanzas_singleton (r : Reader) (data : Bytes) :
    r.stanzas [data] = (r.push data).2.filterMap Event.stanza? := by
  rw [stanzas, pushAll_singleton]

theorem pushAll_cons_of_fine {r : Reader} {data : Bytes} (fine : (r.push data).1.fault = none)
    (pieces : List Bytes) : (r.pushAll (data :: pieces)).2 =
      (r.push data).2 ++ ((r.push data).1.pushAll pieces).2 := by
  rw [pushAll, if_neg (by simp [fine])]

theorem stanzas_cons {r : Reader} {data : Bytes} (fine : (r.push data).1.fault = none)
    (pieces : List Bytes) : r.stanzas (data :: pieces) =
      (r.push data).2.filterMap Event.stanza? ++ (r.push data).1.stanzas pieces := by
  rw [stanzas, pushAll_cons_of_fine fine, List.filterMap_append]
  rfl

theorem opened_of_stanzas {framing : Framing} (stream : framing = .stream) {limit : Nat}
    {pieces : List Bytes} (some_ : (fresh framing limit).stanzas pieces ≠ []) :
    ∃ known, .opened known ∈ ((fresh framing limit).pushAll pieces).2 := by
  subst stream
  obtain ⟨header, ss, front⟩ := ((Tells.fresh .stream limit).pushAll pieces).fits.grammar
  rw [stanzas] at some_
  rw [List.nil_append] at front
  generalize ((fresh .stream limit).pushAll pieces).2 = events at some_ front ⊢
  cases events with
  | nil => exact absurd rfl some_
  | cons first events =>
    obtain ⟨rfl, -⟩ := List.cons_prefix_cons.1 front
    exact ⟨header, List.mem_cons_self⟩

end Reader

namespace Connection

theorem header_isSome_foldl_deliver (events : List Event) (c : Connection) :
    (events.foldl deliver c).header.isSome ↔ c.header.isSome ∨ ∃ known, .opened known ∈ events := by
  induction events generalizing c with
  | nil => simp
  | cons e events ih =>
    rw [List.foldl_cons, ih]
    cases e <;> simp [deliver]

theorem await_of_ready {α : Type} {take? : Connection → Option (α × Connection)}
    {P : Connection → Prop}
    (step : ∀ c c', P c → take? c = none → c.fill = (.ready (), c') → P c') {c c' : Connection}
    {a : α} (start : P c) (found : await take? c = (.ready a, c')) :
    ∃ c'', P c'' ∧ take? c'' = some (a, c') := by
  fun_induction await take? c with
  | case1 c a' last there =>
    cases found
    exact ⟨c, start, there⟩
  | case2 => cases found
  | case3 c missing unclosed next read ih => exact ih (step c next start missing read) found
  | case4 => cases found
  | case5 => cases found

/-- The stanzas that are wanted are still to be given, and a header before them if one is wanted,
too. The last of them comes with the read `x ++ y`, in its front part `x`. -/
inductive Wants (x y : Bytes) (after : List Arrival) (header : Prop) (wanted : List Stanza)
    (c : Connection) : Prop where
  | ahead (pieces : List Bytes)
      (arrivals : c.wire.arrivals = pieces.map .bytes ++ .bytes (x ++ y) :: after)
      (reads : ∀ data ∈ pieces, IsRead data) (last : IsRead (x ++ y))
      (enough : wanted <+: c.inbox ++ c.reader.stanzas (pieces ++ [x]))
      (short : ¬ wanted <+: c.inbox ++ c.reader.stanzas pieces)
      (opens : header →
        c.header.isSome ∨ ∃ known, .opened known ∈ (c.reader.pushAll (pieces ++ [x])).2)
  | taken (arrivals : c.wire.arrivals = after) (enough : wanted <+: c.inbox)
      (opens : header → c.header.isSome)

theorem fill_of_read {c : Connection} {data : Bytes} {rest : List Arrival} (read : IsRead data)
    (arrivals : c.wire.arrivals = .bytes data :: rest) :
    c.fill = (c.setArrivals rest).receive data := by
  rw [fill, arrivals, next_read read]

theorem receive_ready {c c' : Connection} {data : Bytes} (read : c.receive data = (.ready (), c')) :
    (c.reader.push data).1.fault = none
      ∧ c' = (c.reader.push data).2.foldl deliver { c with reader := (c.reader.push data).1 } := by
  unfold receive at read
  dsimp only at read
  cases fault : (c.reader.push data).1.fault with
  | some why =>
    rw [fault] at read
    cases read
  | none =>
    rw [fault] at read
    cases read
    exact ⟨rfl, rfl⟩

namespace Wants

variable {x y : Bytes} {after : List Arrival} {header : Prop} {wanted : List Stanza}
  {c c' : Connection}

theorem fill (h : Wants x y after header wanted c)
    (short : ¬ wanted <+: c.inbox ∨ header ∧ c.header = none) (read : c.fill = (.ready (), c')) :
    Wants x y after header wanted c' := by
  cases h with
  | taken arrivals enough opens =>
    rcases short with missing | ⟨headed, missing⟩
    · exact absurd enough missing
    · have known := opens headed
      rw [missing] at known
      cases known
  | ahead pieces arrivals reads last enough short opens =>
    -- The read is one of those before the last, or the last itself.
    cases pieces with
    | nil =>
      rw [fill_of_read last arrivals] at read
      obtain ⟨-, rfl⟩ := receive_ready read
      rw [List.nil_append, Reader.stanzas_singleton] at enough
      have front := c.reader.events_push_prefix x y
      refine .taken ?_ ?_ fun headed => ?_
      · rw [wire_foldl_deliver]
        rfl
      · rw [inbox_foldl_deliver]
        refine enough.trans ?_
        exact (List.prefix_append_right_inj _).2 (front.filterMap Event.stanza?)
      · rw [header_isSome_foldl_deliver]
        refine (opens headed).imp_right fun ⟨known, opened⟩ => ⟨known, front.subset ?_⟩
        rwa [Reader.pushAll_concat] at opened
    | cons data pieces =>
      rw [fill_of_read (reads data List.mem_cons_self) arrivals] at read
      obtain ⟨fine, rfl⟩ := receive_ready read
      have fine' : (c.reader.push data).1.fault = none := fine
      rw [List.cons_append, Reader.stanzas_cons fine', ← List.append_assoc] at enough
      rw [Reader.stanzas_cons fine', ← List.append_assoc] at short
      refine .ahead pieces ?_ (fun piece mem => reads piece (List.mem_cons_of_mem _ mem)) last ?_ ?_
        fun headed => ?_
      · rw [wire_foldl_deliver]
        rfl
      · rw [inbox_foldl_deliver, reader_foldl_deliver]
        exact enough
      · rw [inbox_foldl_deliver, reader_foldl_deliver]
        exact short
      · rw [header_isSome_foldl_deliver, reader_foldl_deliver, or_assoc]
        refine (opens headed).imp_right ?_
        rintro ⟨known, opened⟩
        rw [List.cons_append, Reader.pushAll_cons_of_fine fine', List.mem_append] at opened
        exact opened.imp (fun now => ⟨known, now⟩) fun later => ⟨known, later⟩

theorem recv {s s' : Stanza} (h : Wants x y after header (s :: wanted) c)
    (received : c.recv = (.ready s', c')) : s' = s ∧ Wants x y after header wanted c' := by
  have step (c c' : Connection) (h : Wants x y after header (s :: wanted) c)
      (missing : c.takeStanza? = none) (read : c.fill = (.ready (), c')) :
      Wants x y after header (s :: wanted) c' := by
    have empty : c.inbox = [] := by
      rw [takeStanza?] at missing
      split at missing
      · assumption
      · cases missing
    refine h.fill (.inl ?_) read
    rw [empty, List.prefix_nil]
    exact List.cons_ne_nil _ _
  obtain ⟨c'', h, there⟩ := await_of_ready step h received
  obtain ⟨inbox, waiting, rfl⟩ := takeStanza?_eq_some there
  cases h with
  | ahead pieces arrivals reads last enough short opens =>
    rw [waiting, List.cons_append, List.cons_prefix_cons] at enough short
    obtain ⟨rfl, enough⟩ := enough
    exact ⟨rfl, .ahead pieces arrivals reads last enough (fun more => short ⟨rfl, more⟩) opens⟩
  | taken arrivals enough opens =>
    rw [waiting, List.cons_prefix_cons] at enough
    obtain ⟨rfl, enough⟩ := enough
    exact ⟨rfl, .taken arrivals enough opens⟩

theorem recvOpen {known : Header} (h : Wants x y after True wanted c)
    (opened : c.recvOpen = (.ready known, c')) : Wants x y after False wanted c' := by
  have step (c c' : Connection) (h : Wants x y after True wanted c)
      (missing : c.takeHeader? = none) (read : c.fill = (.ready (), c')) :
      Wants x y after True wanted c' := by
    refine h.fill (.inr ⟨trivial, ?_⟩) read
    simpa [takeHeader?] using missing
  obtain ⟨c'', h, there⟩ := await_of_ready step h opened
  obtain ⟨-, rfl⟩ := takeHeader?_eq_some there
  cases h with
  | ahead pieces arrivals reads last enough short opens =>
    exact .ahead pieces arrivals reads last enough short False.elim
  | taken arrivals enough opens => exact .taken arrivals enough False.elim

theorem of_same (h : Wants x y after header wanted c)
    (arrivals : c'.wire.arrivals = c.wire.arrivals) (inbox : c'.inbox = c.inbox)
    (reader : c'.reader = c.reader) (known : c'.header = c.header) :
    Wants x y after header wanted c' := by
  cases h with
  | ahead pieces arrivals' reads last enough short opens =>
    rw [← inbox, ← reader] at enough short
    rw [← known, ← reader] at opens
    exact .ahead pieces (arrivals.trans arrivals') reads last enough short opens
  | taken arrivals' enough opens =>
    rw [← inbox] at enough
    rw [← known] at opens
    exact .taken (arrivals.trans arrivals') enough opens

theorem openStream {features s : Stanza} {ours : Header} (works : c.Works)
    (framed : c.reader.framing ≠ .standalone) (h : Wants x y after True (s :: wanted) c)
    (opened : openStream ours c = (.ready features, c')) :
    features = s ∧ Wants x y after False wanted c' := by
  obtain ⟨-, known, c'', header, received⟩ := openStream_ready works framed opened
  have started : Wants x y after True (s :: wanted)
      ((c.named ours).writing (c.reader.framing.openText ours)) := h.of_same rfl rfl rfl rfl
  exact (started.recvOpen header).recv received

theorem arrivals_of_nil (h : Wants x y after header [] c) : c.wire.arrivals = after := by
  cases h with
  | ahead pieces arrivals reads last enough short => exact absurd List.nil_prefix short
  | taken arrivals => exact arrivals

end Wants

section
open Authenticate

variable {c c' : Connection} {frames replies : List Stanza}

theorem wrote_send (works : c.Works) (s : Stanza) :
    Wrote c [s.write c.defaultNs] (send s c).2 := by
  rw [send_eq works]
  exact wrote_writing c _

theorem wrote_rounds (works : c.Works) (rounds : Rounds channel c frames replies c') :
    Wrote c (frames.map (·.write c.defaultNs)) c' := by
  induction rounds with
  | none => exact .refl _
  | @next c c₁ c₂ last frame reply frames replies sent received rest ih =>
    have first := wrote_send works frame
    have second := wrote_recv c₁
    rw [show send frame c = _ from sent] at first
    rw [show c₁.recv = _ from received] at second
    have round := first.trans second
    have rest := ih (round.works works)
    rw [round.defaultNs] at rest
    exact round.trans rest

theorem wrote_converse (works : c.Works) (shutdown : Nat → Bool) (looks : Nat) (e : Exchange)
    (frame : Stanza) : ∃ sent, (sent = [] ∨ ∃ more, sent = frame :: more)
      ∧ Wrote c (sent.map (·.write c.defaultNs)) (converse channel shutdown looks e frame c).2 := by
  -- A round that ends the exchange has at most written its own frame.
  have one (looks : Nat) (frame : Stanza) {c c' : Connection} {outcome : Awaited AuthFault Stanza}
      (works : c.Works) (ran : round channel shutdown looks frame c = (outcome, c')) :
      ∃ sent, (sent = [] ∨ ∃ more, sent = frame :: more) ∧
        Wrote c (sent.map (·.write c.defaultNs)) c' := by
    rw [round_eq] at ran
    split at ran
    · cases ran
      exact ⟨[], .inl rfl, .refl c⟩
    · refine ⟨[frame], .inr ⟨[], rfl⟩, ?_⟩
      have written := wrote_send works frame
      rw [show channel.send frame c = _ from send_eq works frame] at ran
      rw [send_eq works] at written
      dsimp only at ran
      split at ran
      · cases ran
        exact written
      · cases ran
        exact written.trans (wrote_recv _)
  fun_induction converse channel shutdown looks e frame c with
  | case1 _ _ _ _ _ _ ran => exact one _ _ works ran
  | case2 _ _ _ _ _ ran => exact one _ _ works ran
  | case3 _ _ _ _ _ _ ran => exact one _ _ works ran
  | case4 _ _ _ _ _ _ ran => exact one _ _ works ran
  | case5 looks e frame c reply c' answers next e' handled ih =>
    obtain ⟨c₁, sent, received⟩ := round_of_ready answers
    have first := wrote_rounds works (.next sent received .none)
    obtain ⟨more, -, rest⟩ := ih (first.works works)
    rw [first.defaultNs] at rest
    exact ⟨frame :: more, .inr ⟨more, rfl⟩, first.trans rest⟩

theorem gives_rounds (rounds : Rounds channel c frames replies c') : Gives c replies c' := by
  induction rounds with
  | none => exact .refl _
  | @next c c₁ c₂ last frame reply frames replies sent received rest ih =>
    have first := gives_send frame c
    have second := gives_recv c₁
    rw [show send frame c = _ from sent] at first
    rw [show c₁.recv = _ from received] at second
    exact (first.trans second).trans ih

/-- An exchange that is granted by what is wanted takes just that. -/
theorem Wants.rounds {x y : Bytes} {after : List Arrival} {header : Prop} {wanted : List Stanza}
    {e : Exchange} {answers answers' : List Stanza} (h : Wants x y after header wanted c)
    (works : c.Works) (rounds : Rounds channel c frames replies c') (enough : e.Grants wanted answers)
    (granted : e.Grants replies answers') :
    replies = wanted ∧ answers' = answers ∧ Wants x y after header [] c' := by
  induction rounds generalizing e wanted answers answers' with
  | none => cases granted
  | @next c c₁ c₂ last frame reply frames replies sent received rest ih =>
    obtain ⟨s, wanted, rfl⟩ : ∃ s ss, wanted = s :: ss := by
      cases enough <;> exact ⟨_, _, rfl⟩
    have same : c₁ = c.writing (frame.write c.defaultNs) :=
      congrArg Prod.snd (sent.symm.trans (send_eq works frame))
    have started : Wants x y after header (s :: wanted) c₁ := by
      rw [same]
      exact h.of_same rfl rfl rfl rfl
    obtain ⟨rfl, later⟩ := started.recv received
    have works' : c₂.Works := by
      have quiet := wrote_recv c₁
      rw [show c₁.recv = _ from received] at quiet
      exact quiet.works (same ▸ works)
    -- Both runs of the machine take the same reply, so they end together.
    cases enough with
    | last done =>
      cases granted with
      | last =>
        cases rest
        exact ⟨rfl, rfl, later⟩
      | next goesOn => cases done.symm.trans goesOn
    | next goesOn enough =>
      cases granted with
      | last done => cases done.symm.trans goesOn
      | next goesOn' granted =>
        cases goesOn.symm.trans goesOn'
        obtain ⟨rfl, rfl, left⟩ := ih later works' enough granted
        exact ⟨rfl, rfl, left⟩

end

end Connection

end XmppStream
