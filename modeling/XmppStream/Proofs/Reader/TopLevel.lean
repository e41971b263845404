import XmppStream.Proofs.Reader.Descent

/-! At the top level the reader keeps to the framing as the reference does: the same events come
out, and the same streams are refused. -/

namespace XmppStream.Reference
open Markup

theorem eq_append_of_splitColon {cs label localPart : List Char}
    (h : splitColon cs = some (label, localPart)) : cs = label ++ ':' :: localPart := by
  induction cs generalizing label with
  | nil => cases h
  | cons c cs ih =>
    rw [splitColon] at h
    split_ifs at h with hc
    · cases h
      rw [hc, List.nil_append]
    · cases hs : splitColon cs with
      | none =>
        rw [hs] at h
        cases h
      | some parts =>
        rw [hs] at h
        cases h
        rw [ih hs, List.cons_append]

theorem takeWhile_of_no_colon {cs : List Char} (plain : ':' ∉ cs) (before : List Char) :
    (cs.reverse ++ before).takeWhile (· != ':') = cs.reverse ++ before.takeWhile (· != ':') := by
  apply List.takeWhile_append_of_pos
  intro c hc
  apply bne_iff_ne.2
  rintro rfl
  exact plain (List.mem_reverse.1 hc)

theorem lastPart_of_localPart {name localName : String} (h : localPart name = localName)
    (plain : ':' ∉ localName.toList) : Reader.lastPart name = localName := by
  rw [localPart] at h
  rw [Reader.lastPart]
  cases hs : splitColon name.toList with
  | none =>
    rw [hs] at h
    subst h
    have whole := takeWhile_of_no_colon plain []
    rw [List.append_nil, List.takeWhile_nil, List.append_nil] at whole
    rw [whole, List.reverse_reverse, String.ofList_toList]
  | some parts =>
    rw [hs] at h
    subst h
    rw [String.toList_ofList (l := parts.2)] at plain
    rw [eq_append_of_splitColon hs, List.reverse_append, List.reverse_cons, List.append_assoc,
      takeWhile_of_no_colon plain, List.singleton_append, List.takeWhile_cons_of_neg (by decide),
      List.append_nil, List.reverse_reverse]

/-- The reader is at a place of the top level. -/
inductive At (r : Reader) : Place → Prop where
  | outside (unfinished : r.finished = false) (between : r.inFraming = false)
      (depth : r.depth = 0) (names : r.names = []) (scopes : r.scopes = []) : At r .outside
  | wrapped {attrs : Table} {name : Bytes} {opened : String} (stream : r.framing = .stream)
      (unfinished : r.finished = false) (between : r.inFraming = false) (depth : r.depth = 1)
      (decoded : decodeName name = .ok opened) (names : r.names = [opened])
      (agree : Agree r.scopes [attrs]) : At r (.wrapped attrs name)
  | framing {closes : Bool} {name : Bytes} {opened : String} {scope : Scope}
      (unfinished : r.finished = false) (inside : r.inFraming = true) (depth : r.depth = 1)
      (decoded : decodeName name = .ok opened) (names : r.names = [opened])
      (scopes : r.scopes = [scope]) (kind : Reader.lastPart opened = "close" ↔ closes) :
      At r (.framing closes name)
  | closed (finished : r.finished = true) (depth : r.depth = 0) (names : r.names = []) : At r .closed

def Place.depth : Place → Nat
  | .outside => 0
  | .wrapped .. => 1
  | .framing .. => 1
  | .closed => 0

theorem At.depth_eq {r : Reader} {place : Place} (h : At r place) : r.depth = place.depth := by
  cases h with
  | outside unfinished between depth names scopes => exact depth
  | wrapped stream unfinished between depth decoded names agree => exact depth
  | framing unfinished inside depth decoded names scopes kind => exact depth
  | closed finished depth names => exact depth

structure Top (framing : Framing) (r : Reader) (place : Place) : Prop where
  framing : r.framing = framing
  ready : r.fault = none
  nodes : r.nodes = []
  place : At r place

namespace Top

variable {framing : Framing} {r : Reader} {place : Place}

theorem holding_nil (top : Top framing r place) : holding r [] = r := by
  rw [holding, ← top.nodes]

theorem fresh (framing : Framing) (limit : Nat) :
    Top framing (Reader.fresh framing limit) .outside :=
  ⟨rfl, rfl, rfl, .outside rfl rfl rfl rfl rfl⟩

theorem opening_refused {r : Reader} (h : r.finished = true ∨ r.inFraming = true) (tag : Bytes) :
    (r.opening tag).toOption = none := by
  unfold Reader.opening
  cases decodeName (tagName tag) with
  | error e => rfl
  | ok name =>
    dsimp only
    rcases h with finished | inside
    · rw [if_pos finished]
      rfl
    · rw [if_pos inside]
      split_ifs <;> rfl

theorem begins_outside (top : Top framing r .outside) {tag : Bytes} {e : Element}
    (h : element? [] tag = some e) :
    ∃ t, Begins r.scopes [] tag e t ∧ r.opening tag = r.enterTop t e.node.ns e.node.prefixes := by
  obtain ⟨unfinished, between, depth, -, scopes⟩ := top.place
  have agree : Agree r.scopes [] := scopes ▸ .nil
  obtain ⟨t, begins⟩ := begins_of_element? agree h
  refine ⟨t, begins, ?_⟩
  rw [begins.opening unfinished between, if_pos depth]

theorem stanza_of_enterNode (top : Top framing r place) (unfinished : r.finished = false)
    (between : r.inFraming = false) (inStream : ¬ (r.framing = .stream ∧ r.depth = 0))
    {above : Around} {tag : Bytes} {e : Element} {t : StartTag} (begins : Begins r.scopes above tag e t)
    (opens : r.opening tag = .ok (r.enterNode t e.node.ns e.node.prefixes, [])) :
    ∃ opened scope, decodeName (tagName tag) = .ok opened
      ∧ Inside (r.enter opened (scope :: r.scopes)) (e.attrs :: above) (tagName tag)
      ∧ r.apply (.opening tag) =
        .ok (holding (r.enter opened (scope :: r.scopes)) [{ node := e.node }], [])
      ∧ ∀ n, (holding r [n]).leave opened = .ok (r, [.stanza n.close]) := by
  refine ⟨t.name, t.scope, begins.name, ?_, ?_, fun n => ?_⟩
  · exact ⟨top.ready, unfinished, between, Nat.succ_ne_zero _, begins.agree, t.name, r.names,
      begins.name, rfl⟩
  · rw [Reader.apply, opens, begins.enterNode, top.nodes]
    rfl
  · rw [Reader.leave, holding]
    dsimp only
    rw [if_neg (by rw [between]; simp), if_neg inStream]
    exact congrArg (fun r => Except.ok (r, _)) top.holding_nil

def Entered (framing : Framing) (r : Reader) (tag : Bytes) : Option Entry → Prop
  | none => (r.opening tag).toOption = none
  | some (.frame inside events) =>
    ∃ r', r.apply (.opening tag) = .ok (r', events) ∧ Top framing r' inside
  | some (.stanza around node) =>
    ∃ opened scope, decodeName (tagName tag) = .ok opened
      ∧ Inside (r.enter opened (scope :: r.scopes)) around (tagName tag)
      ∧ r.apply (.opening tag) =
        .ok (holding (r.enter opened (scope :: r.scopes)) [{ node }], [])
      ∧ ∀ n, (holding r [n]).leave opened = .ok (r, [.stanza n.close])

theorem wrapped_of_begins (top : Top .stream r .outside) {tag : Bytes} {e : Element} {t : StartTag}
    (begins : Begins r.scopes [] tag e t) :
    Top .stream (r.enter t.name (t.scope :: r.scopes)) (.wrapped e.attrs (tagName tag)) := by
  obtain ⟨unfinished, between, depth, names, scopes⟩ := top.place
  have agree := begins.agree
  refine ⟨top.framing, top.ready, top.nodes, ?_⟩
  unfold Reader.enter
  rw [depth, names]
  exact .wrapped top.framing unfinished between rfl begins.name rfl agree

theorem framing_of_begins (top : Top .webSocket r .outside) {tag : Bytes} {e : Element}
    {t : StartTag} (begins : Begins r.scopes [] tag e t) {closes : Bool}
    (kind : e.node.name = "open" ∧ closes = false ∨ e.node.name = "close" ∧ closes = true) :
    Top .webSocket { r.enter t.name (t.scope :: r.scopes) with inFraming := true }
      (.framing closes (tagName tag)) := by
  obtain ⟨unfinished, between, depth, names, scopes⟩ := top.place
  have localPart_eq : localPart t.name = e.node.name := by
    rw [← begins.local_name, ofString_eq]
  have last : Reader.lastPart t.name = "close" ↔ closes := by
    rcases kind with ⟨name, rfl⟩ | ⟨name, rfl⟩
    · rw [lastPart_of_localPart (localPart_eq.trans name) (by decide)]
      decide
    · rw [lastPart_of_localPart (localPart_eq.trans name) (by decide)]
      decide
  refine ⟨top.framing, top.ready, top.nodes, ?_⟩
  unfold Reader.enter
  rw [depth, names, scopes]
  exact .framing unfinished rfl rfl begins.name rfl rfl last

theorem enter (top : Top framing r place) (tag : Bytes) :
    Entered framing r tag (place.enter? framing tag) := by
  have framed := top.framing
  cases place with
  | outside =>
    obtain ⟨unfinished, between, depth, names, scopes⟩ := top.place
    unfold Place.enter?
    cases begun : element? [] tag with
    | none => exact refused_of_element? (scopes ▸ .nil) begun
    | some e =>
      obtain ⟨attrs, node⟩ := e
      obtain ⟨t, begins, opens⟩ := top.begins_outside begun
      have header := begins.header
      rw [Reader.enterTop, framed, begins.local_name] at opens
      -- Outside of all elements the framing alone decides.
      cases framing with
      | standalone =>
        exact top.stanza_of_enterNode unfinished between (by rw [framed]; simp) begins opens
      | stream =>
        dsimp only at opens ⊢
        split_ifs at opens ⊢ with wrapper
        · rw [header, begins.defaultNs] at opens
          exact ⟨_, opens, top.wrapped_of_begins begins⟩
        · unfold Entered
          rw [opens]
          rfl
      | webSocket =>
        dsimp only at opens ⊢
        by_cases other : node.ns = Namespace.framing
        · rw [if_pos other] at opens
          rw [if_neg (not_not_intro other)]
          split_ifs at opens ⊢ with opening closing
          · rw [header] at opens
            exact ⟨_, opens, top.framing_of_begins begins (.inl ⟨opening, rfl⟩)⟩
          · exact ⟨_, opens, top.framing_of_begins begins (.inr ⟨closing, rfl⟩)⟩
          · unfold Entered
            rw [opens]
            rfl
        · rw [if_neg other] at opens
          rw [if_pos other]
          exact top.stanza_of_enterNode unfinished between (by rw [framed]; simp) begins opens
  | wrapped above name =>
    cases top.place with
    | wrapped stream unfinished between depth decoded names agree =>
    unfold Place.enter?
    dsimp only
    cases begun : element? [above] tag with
    | none => exact refused_of_element? agree begun
    | some e =>
      obtain ⟨t, begins⟩ := begins_of_element? agree begun
      have opens := begins.opening unfinished between
      rw [if_neg (by rw [depth]; simp)] at opens
      exact top.stanza_of_enterNode unfinished between (by rw [depth]; simp) begins opens
  | framing closes name =>
    cases top.place with
    | framing unfinished inside depth decoded names scopes kind =>
    exact opening_refused (.inr inside) tag
  | closed =>
    cases top.place with
    | closed finished depth names => exact opening_refused (.inl finished) tag

theorem enter_stanza (top : Top framing r place) {tag : Bytes} {around : Around} {node : Node}
    (h : place.enter? framing tag = some (.stanza around node)) :
    ∃ opened scope, decodeName (tagName tag) = .ok opened
      ∧ Inside (r.enter opened (scope :: r.scopes)) around (tagName tag)
      ∧ r.apply (.opening tag) =
        .ok (holding (r.enter opened (scope :: r.scopes)) [{ node }], [])
      ∧ ∀ n, (holding r [n]).leave opened = .ok (r, [.stanza n.close]) := by
  have entered := top.enter tag
  rwa [h] at entered

theorem enter_frame (top : Top framing r place) {tag : Bytes} {inside : Place}
    {events : List Event} (h : place.enter? framing tag = some (.frame inside events)) :
    ∃ r', r.apply (.opening tag) = .ok (r', events) ∧ Top framing r' inside := by
  have entered := top.enter tag
  rwa [h] at entered

theorem enter_none (top : Top framing r place) {tag : Bytes}
    (h : place.enter? framing tag = none) : (r.opening tag).toOption = none := by
  have entered := top.enter tag
  rwa [h] at entered

theorem leave_some (top : Top framing r place) {name : Bytes} {place' : Place}
    {events : List Event} (h : place.leave? name = some (place', events)) :
    ∃ r', r.apply (.closing name) = .ok (r', events) ∧ Top framing r' place' := by
  cases place with
  | outside => cases h
  | wrapped attrs name' =>
    cases top.place with
    | wrapped stream unfinished between depth decoded names agree =>
    unfold Place.leave? at h
    dsimp only at h
    split_ifs at h with same
    cases h
    subst same
    have depth' : r.depth - 1 = 0 := by rw [depth]
    unfold Reader.apply
    dsimp only
    rw [closing_of_open decoded names]
    unfold Reader.leave
    dsimp only
    rw [between, if_neg (by simp), if_pos ⟨stream, depth'⟩]
    exact ⟨_, rfl, top.framing, top.ready, top.nodes, .closed rfl depth' rfl⟩
  | framing closes name' =>
    cases top.place with
    | framing unfinished inside depth decoded names scopes kind =>
    have depth' : r.depth - 1 = 0 := by rw [depth]
    unfold Place.leave? at h
    dsimp only at h
    split_ifs at h with same ends
    all_goals
      cases h
      subst same
      unfold Reader.apply
      dsimp only
      rw [closing_of_open decoded names]
      unfold Reader.leave
      dsimp only
      rw [inside, if_pos rfl]
    · rw [if_pos (kind.2 ends)]
      exact ⟨_, rfl, top.framing, top.ready, top.nodes, .closed rfl depth' rfl⟩
    · have scopes' : r.scopes.tail = [] := by rw [scopes]; rfl
      rw [if_neg (mt kind.1 ends)]
      exact ⟨_, rfl, top.framing, top.ready, top.nodes, .outside unfinished rfl depth' rfl scopes'⟩
  | closed => cases h

theorem leave_none (top : Top framing r place) {name : Bytes} (h : place.leave? name = none) :
    (r.closing name).toOption = none := by
  apply closing_of_other
  intro opened names innermost decoded
  cases top.place with
  | outside unfinished between depth none scopes => cases none.symm.trans innermost
  | closed finished depth none => cases none.symm.trans innermost
  | wrapped stream unfinished between depth decoded' one agree =>
    cases one.symm.trans innermost
    rw [Place.leave?, if_pos (decodeName_injective decoded decoded')] at h
    cases h
  | framing unfinished inside depth decoded' one scopes kind =>
    cases one.symm.trans innermost
    rw [Place.leave?, if_pos (decodeName_injective decoded decoded')] at h
    cases h

theorem finished_iff (top : Top framing r place) : r.finished ↔ place = .closed := by
  cases top.place with
  | closed finished depth names => exact ⟨fun _ => rfl, fun _ => finished⟩
  | outside unfinished between depth names scopes => simp [unfinished]
  | wrapped stream unfinished between depth decoded names agree => simp [unfinished]
  | framing unfinished inside depth decoded names scopes kind => simp [unfinished]

theorem characters_of_allows (top : Top framing r place) {text : String} (h : place.allows text) :
    r.characters text = .ok (r, []) := by
  rw [Place.allows, Bool.or_eq_true, decide_eq_true_eq] at h
  rw [Reader.characters, top.nodes]
  dsimp only
  rw [if_neg]
  rintro ⟨finished, solid⟩
  rcases h with h | h
  · exact h (top.finished_iff.1 finished)
  · rw [h] at solid
    cases solid

theorem characters_of_not_allows (top : Top framing r place) {text : String}
    (h : ¬ place.allows text) : (r.characters text).toOption = none := by
  rw [Place.allows, Bool.or_eq_true, decide_eq_true_eq, not_or, ne_eq, Decidable.not_not] at h
  rw [Reader.characters, top.nodes]
  dsimp only
  rw [if_pos ⟨top.finished_iff.2 h.1, by simpa using h.2⟩]
  rfl

end Top

def Outcome.Fits (o : Outcome) (ran : Reader × List Event) : Prop :=
  ran.2 = o.events ∧ ran.1.fault.isNone = o.ok

theorem fits_failed {r : Reader} {t : Token} (h : (r.apply t).toOption = none) (ts : List Token) :
    Outcome.failed.Fits (r.run (t :: ts)) := by
  cases ht : r.apply t with
  | error e =>
    rw [Reader.run_of_error ht]
    exact ⟨rfl, rfl⟩
  | ok taken =>
    rw [ht] at h
    cases h

theorem fits_after {r r' : Reader} {t : Token} {events : List Event} {ts : List Token} {o : Outcome}
    (h : r.apply t = .ok (r', events)) (fits : o.Fits (r'.run ts)) :
    (o.after events).Fits (r.run (t :: ts)) := by
  rw [Reader.run_of_ok h]
  exact ⟨congrArg (events ++ ·) fits.1, fits.2⟩

/-- The reader runs through a stream as the reference does. -/
theorem run_stream (framing : Framing) (place : Place) (ts : List Token) (r : Reader)
    (top : Top framing r place) : (stream framing place ts).Fits (r.run ts) := by
  -- A stanza is one step here: its content is what `run_content` says.
  fun_induction stream framing place ts generalizing r with
  | case1 place =>
    refine ⟨rfl, ?_⟩
    rw [Reader.run, top.ready]
    rfl
  | case2 place tag ts refused => exact fits_failed (t := .opening tag) (top.enter_none refused) ts
  | case3 place tag ts inside events frame ih =>
    obtain ⟨r', opens, there⟩ := top.enter_frame frame
    exact fits_after opens (ih r' there)
  | case4 place tag ts around node stanza body rest shorter closed ih =>
    obtain ⟨opened, scope, decoded, inside, opens, ends⟩ := top.enter_stanza stanza
    have content := run_content around (tagName tag) {} ts _ inside { node } [] node (.fresh _)
    rw [closed] at content
    obtain ⟨n, holds, ran⟩ := content
    have closes := closing_enter r scope decoded [n]
    rw [ends, holds.close_eq] at closes
    rw [Reader.run_of_quiet opens, ran]
    exact fits_after closes (ih r top)
  | case5 place tag ts around node stanza unfinished =>
    obtain ⟨opened, scope, -, inside, opens, -⟩ := top.enter_stanza stanza
    have content := run_content around (tagName tag) {} ts _ inside { node } [] node (.fresh _)
    rw [unfinished] at content
    rw [Reader.run_of_quiet opens]
    exact ⟨content.2, by rw [content.1]; rfl⟩
  | case6 place tag ts around node stanza failed =>
    obtain ⟨opened, scope, -, inside, opens, -⟩ := top.enter_stanza stanza
    have content := run_content around (tagName tag) {} ts _ inside { node } [] node (.fresh _)
    rw [failed] at content
    rw [Reader.run_of_quiet opens]
    exact ⟨content.2, by rw [Option.isNone_eq_false_iff.2 content.1]; rfl⟩
  | case7 place tag ts refused =>
    exact fits_failed (t := .empty tag) (emptyTag_of_refused (top.enter_none refused)) ts
  | case8 place tag ts inside events frame stuck =>
    obtain ⟨r', opens, there⟩ := top.enter_frame frame
    exact fits_failed (t := .empty tag) (emptyTag_of_stuck opens (there.leave_none stuck)) ts
  | case9 place tag ts inside events frame place' more ends ih =>
    obtain ⟨r', opens, there⟩ := top.enter_frame frame
    obtain ⟨r'', closes, back⟩ := there.leave_some ends
    have both : r.apply (.empty tag) = _ := emptyTag_of_ok opens closes
    exact fits_after both (ih r'' back)
  | case10 place tag ts around node stanza ih =>
    obtain ⟨opened, scope, decoded, inside, opens, ends⟩ := top.enter_stanza stanza
    have closes := closing_enter r scope decoded [{ node }]
    rw [ends, (Holds.fresh node).close_eq] at closes
    have both : r.apply (.empty tag) = _ := emptyTag_of_ok opens closes
    exact fits_after both (ih r top)
  | case11 place name ts stuck => exact fits_failed (t := .closing name) (top.leave_none stuck) ts
  | case12 place name ts place' more ends ih =>
    obtain ⟨r', closes, there⟩ := top.leave_some ends
    exact fits_after closes (ih r' there)
  | case13 place raw ts e bad => exact fits_failed (by rw [Reader.apply, bad]; rfl) ts
  | case14 place raw ts text good allowed ih =>
    rw [Reader.run_of_quiet (by rw [Reader.apply, good]; exact top.characters_of_allows allowed)]
    exact ih r top
  | case15 place raw ts text good refused =>
    exact fits_failed (by rw [Reader.apply, good]; exact top.characters_of_not_allows refused) ts
  | case16 place raw ts e bad => exact fits_failed (by rw [Reader.apply, bad]; rfl) ts
  | case17 place raw ts text good allowed ih =>
    rw [Reader.run_of_quiet (by rw [Reader.apply, good]; exact top.characters_of_allows allowed)]
    exact ih r top
  | case18 place raw ts text good refused =>
    exact fits_failed (by rw [Reader.apply, good]; exact top.characters_of_not_allows refused) ts
  | case19 place ts ih =>
    rw [Reader.run_of_quiet rfl]
    exact ih r top

/-- A stream of complete tokens that comes at once is read as by recursive descent: the same events
are delivered, and the push succeeds on the same streams. -/
theorem push_eq_stream (framing : Framing) (limit : Nat) (data : Bytes)
    (mark : ¬ Reader.byteOrderMark <+: data) (complete : (lex data).2 = .text [])
    (fits : data.length ≤ limit) :
    ((Reader.fresh framing limit).push data).2 =
        (stream framing .outside ((lex data).1.map Lexeme.token)).events
      ∧ ((Reader.fresh framing limit).push data).1.fault.isNone =
        (stream framing .outside ((lex data).1.map Lexeme.token)).ok := by
  have ran := run_stream framing .outside ((lex data).1.map Lexeme.token) _ (.fresh framing limit)
  -- All tokens together fit below the limit, so charging changes nothing.
  have room : (Reader.fresh framing limit).charged + extent (lex data).1 ≤ limit := by
    have whole := extent_add_uncut data
    rw [show (Reader.fresh framing limit).charged = 0 from rfl]
    omega
  obtain ⟨c, -, steps⟩ := Reader.steps_eq_run (r := Reader.fresh framing limit) rfl room
  rw [Reader.push_of_complete rfl rfl mark complete, steps]
  exact ran

def nestedInput : Bytes :=
  Utf8.encode "<a xmlns='d' xmlns:p='u'>1<b xmlns='' p:k='&lt;'/><![CDATA[<]]></a>"

theorem push_nestedInput :
    ¬ Reader.byteOrderMark <+: nestedInput ∧ (lex nestedInput).2 = .text []
      ∧ nestedInput.length ≤ 80
      ∧ ((Reader.fresh .standalone 80).push nestedInput).2 =
          (stream .standalone .outside ((lex nestedInput).1.map Lexeme.token)).events
      ∧ ((Reader.fresh .standalone 80).push nestedInput).1.fault.isNone =
          (stream .standalone .outside ((lex nestedInput).1.map Lexeme.token)).ok :=
  have mark : ¬ Reader.byteOrderMark <+: nestedInput := by decide +kernel
  have complete : (lex nestedInput).2 = .text [] := by decide +kernel
  have fits : nestedInput.length ≤ 80 := by decide +kernel
  ⟨mark, complete, fits, push_eq_stream .standalone 80 nestedInput mark complete fits⟩

example : (stream .standalone .outside ((lex nestedInput).1.map Lexeme.token)).events =
    [.stanza { name := "a", ns := "d", text := some "1<", children := [
      { name := "b", prefixes := [("p", "u")], attrs := [("p:k", "<")] }] }] := by decide +kernel

end XmppStream.Reference
