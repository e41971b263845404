import Mathlib.Data.List.TakeWhile
import Mathlib.Tactic.SplitIfs
import XmppStream.Markup.Token

/-! Cutting tokens is stable: more input leaves the tokens cut so far as they are, and only what
was left over can still become something else. -/

namespace XmppStream.Markup

variable {σ : Type}

def extent : List Lexeme → Nat
  | [] => 0
  | x :: xs => x.size + extent xs

/-- What is left of an input after its tokens. -/
def uncut (bs : Bytes) : Bytes := bs.drop (extent (lex bs).1)

def lexWhole (bs : Bytes) : List Lexeme × Ending :=
  match lex bs with
  | (xs, .text raw) => (if raw = [] then xs else xs ++ [⟨.text raw, raw.length⟩], .text [])
  | other => other

@[simp]
theorem extent_nil : extent [] = 0 := rfl

@[simp]
theorem extent_cons (x : Lexeme) (xs : List Lexeme) : extent (x :: xs) = x.size + extent xs := rfl

theorem extent_append (xs ys : List Lexeme) : extent (xs ++ ys) = extent xs + extent ys := by
  induction xs with
  | nil => rw [List.nil_append, extent_nil, Nat.zero_add]
  | cons x xs ih => rw [List.cons_append, extent_cons, extent_cons, ih, Nat.add_assoc]

theorem splitClosing_append (next : Closing σ) (more : Bytes) :
    ∀ {bs : Bytes} {state : σ} {seen content rest : Bytes},
      splitClosing next state seen bs = some (content, rest) →
      splitClosing next state seen (bs ++ more) = some (content, rest ++ more)
  | [], _, _, _, _, h => by cases h
  | b :: r, state, seen, content, rest, h => by
    rw [List.cons_append, splitClosing]
    rw [splitClosing] at h
    cases hb : next state b with
    | none =>
      rw [hb] at h
      cases h
      rfl
    | some state' =>
      rw [hb] at h
      exact splitClosing_append next more h

theorem splitClosing_suffix (next : Closing σ) :
    ∀ {bs : Bytes} {state : σ} {seen content rest : Bytes},
      splitClosing next state seen bs = some (content, rest) → rest <:+ bs
  | [], _, _, _, _, h => by cases h
  | b :: r, state, seen, content, rest, h => by
    rw [splitClosing] at h
    cases hb : next state b with
    | none =>
      rw [hb] at h
      cases h
      exact List.suffix_cons b r
    | some state' =>
      rw [hb] at h
      exact (splitClosing_suffix next h).trans (List.suffix_cons b r)

namespace Front

def extend (more : Bytes) : Front → Front
  | .lexeme x rest => .lexeme x (rest ++ more)
  | .ending e => .ending e

/-- Whether the front stays what it is when more input follows the `n` bytes of its input. An
unknown declaration stays unknown once a byte stands after its `<!`. -/
def Settled (n : Nat) : Front → Prop
  | .lexeme _ _ => True
  | .ending e => e = .unnamedDoctype ∨ (e = .unknownDeclaration ∧ 3 ≤ n)

end Front

theorem frontClosed_append {next : Closing σ} {state : σ} {token : Naming} {around : Nat}
    {r : Bytes} (more : Bytes) (h : frontClosed next state token around r ≠ .ending .cut) :
    frontClosed next state token around (r ++ more) =
      (frontClosed next state token around r).extend more := by
  rw [frontClosed] at h ⊢
  rw [frontClosed]
  cases hs : splitClosing next state [] r with
  | none =>
    rw [hs] at h
    exact absurd rfl h
  | some split =>
    rw [splitClosing_append next more hs]
    dsimp only
    cases token split.1 <;> rfl

theorem frontClosed_suffix {next : Closing σ} {state : σ} {token : Naming} {around : Nat}
    {r rest : Bytes} {x : Lexeme} (h : frontClosed next state token around r = .lexeme x rest) :
    rest <:+ r := by
  rw [frontClosed] at h
  split at h
  · cases h
  · next e =>
    split at h <;> cases h
    exact splitClosing_suffix next e

theorem frontDeclaration_append {r : Bytes} (more : Bytes) (hr : r ≠ [])
    (h : frontDeclaration r ≠ .ending .cut) :
    frontDeclaration (r ++ more) = (frontDeclaration r).extend more := by
  cases r with
  | nil => exact absurd rfl hr
  | cons b r =>
    rw [frontDeclaration] at h
    rw [List.cons_append, frontDeclaration, frontDeclaration]
    split_ifs at h ⊢
    · exact frontClosed_append more h
    · exact frontClosed_append more h
    · exact frontClosed_append more h
    · rfl

theorem frontDeclaration_suffix {r rest : Bytes} {x : Lexeme}
    (h : frontDeclaration r = .lexeme x rest) : rest <:+ r := by
  cases r with
  | nil => cases h
  | cons b r =>
    rw [frontDeclaration] at h
    split_ifs at h
    · exact frontClosed_suffix h
    · exact frontClosed_suffix h
    · exact frontClosed_suffix h

theorem frontMarkup_append {r : Bytes} (more : Bytes)
    (h : (frontMarkup r).Settled (r.length + 1)) :
    frontMarkup (r ++ more) = (frontMarkup r).extend more := by
  cases r with
  | nil => rcases h with h | ⟨h, -⟩ <;> cases h
  | cons b r =>
    have uncut : frontMarkup (b :: r) ≠ .ending .cut := by
      intro e
      rw [e] at h
      rcases h with h | ⟨h, -⟩ <;> cases h
    rw [frontMarkup] at h uncut
    rw [List.cons_append, frontMarkup, frontMarkup]
    split_ifs at h uncut ⊢
    -- After `<!` alone the declaration may still become a known one, so a third byte is needed.
    · refine frontDeclaration_append more ?_ uncut
      rintro rfl
      rcases h with h | ⟨-, h⟩
      · cases h
      · simp at h
    · exact frontClosed_append more uncut
    · exact frontClosed_append more uncut
    · exact frontClosed_append more uncut

theorem frontMarkup_suffix {r rest : Bytes} {x : Lexeme}
    (h : frontMarkup r = .lexeme x rest) : rest <:+ r := by
  cases r with
  | nil => cases h
  | cons b r =>
    rw [frontMarkup] at h
    split_ifs at h
    · exact (frontDeclaration_suffix h).trans (List.suffix_cons b r)
    · exact (frontClosed_suffix h).trans (List.suffix_cons b r)
    · exact (frontClosed_suffix h).trans (List.suffix_cons b r)
    · exact frontClosed_suffix h

theorem frontText_append {bs : Bytes} (more : Bytes) (h : (frontText bs).Settled bs.length) :
    frontText (bs ++ more) = (frontText bs).extend more := by
  -- A text is settled only by the `<` that ends it.
  have kept : bs.dropWhile (!isLt ·) ≠ [] := by
    intro e
    rw [frontText, e] at h
    rcases h with h | ⟨h, -⟩ <;> cases h
  have dropped : (bs ++ more).dropWhile (!isLt ·) = bs.dropWhile (!isLt ·) ++ more := by
    rw [List.dropWhile_append, if_neg (by simpa only [List.isEmpty_iff] using kept)]
  have taken : (bs ++ more).takeWhile (!isLt ·) = bs.takeWhile (!isLt ·) := by
    rw [List.takeWhile_append, if_neg]
    intro e
    have split := congrArg List.length (List.takeWhile_append_dropWhile (p := (!isLt ·)) (l := bs))
    rw [List.length_append, e] at split
    exact kept (List.length_eq_zero_iff.1 (by omega))
  rw [frontText, frontText, dropped, taken]
  cases hd : bs.dropWhile (!isLt ·) with
  | nil => exact absurd hd kept
  | cons b r => rfl

theorem not_lt_of_ending {bs : Bytes} {e : Ending} (h : frontText bs = .ending e) :
    ∀ b ∈ bs, !isLt b := by
  rw [frontText] at h
  split at h
  · next all => exact List.dropWhile_eq_nil_iff.1 all
  · cases h

theorem frontText_suffix {bs rest : Bytes} {x : Lexeme} (h : frontText bs = .lexeme x rest) :
    rest <:+ bs := by
  rw [frontText] at h
  split at h <;> cases h
  exact List.dropWhile_suffix _

theorem front_append {bs : Bytes} (more : Bytes) (h : (front bs).Settled bs.length) :
    front (bs ++ more) = (front bs).extend more := by
  cases bs with
  | nil => rcases h with h | ⟨h, -⟩ <;> cases h
  | cons b r =>
    rw [front] at h
    rw [List.cons_append, front, front]
    split_ifs at h ⊢
    · exact frontMarkup_append more h
    · exact frontText_append more h

theorem front_suffix {bs rest : Bytes} {x : Lexeme} (h : front bs = .lexeme x rest) : rest <:+ bs := by
  cases bs with
  | nil => cases h
  | cons b r =>
    rw [front] at h
    split_ifs at h
    · exact (frontMarkup_suffix h).trans (List.suffix_cons b r)
    · exact frontText_suffix h

theorem front_rest {bs rest : Bytes} {x : Lexeme} (h : front bs = .lexeme x rest) :
    rest = bs.drop x.size := by
  have length := front_length h
  rw [List.suffix_iff_eq_drop.1 (front_suffix h)]
  congr 1
  omega

theorem frontClosed_ne_text {next : Closing σ} {state : σ} {token : Naming} {around : Nat} {r : Bytes}
    (named : ∀ content raw, token content ≠ .error (.text raw)) (raw : Bytes) :
    frontClosed next state token around r ≠ .ending (.text raw) := by
  intro h
  rw [frontClosed] at h
  split at h
  · cases h
  · split at h
    · next e he =>
      cases h
      exact named _ _ he
    · cases h

theorem frontMarkup_ne_text (r raw : Bytes) : frontMarkup r ≠ .ending (.text raw) := by
  have tag (content raw : Bytes) : Naming.tag content ≠ .error (.text raw) := by
    intro h
    cases h
  have endTag (content raw : Bytes) : Naming.endTag content ≠ .error (.text raw) := by
    intro h
    cases h
  have instruction (content raw : Bytes) : Naming.instruction content ≠ .error (.text raw) := by
    intro h
    unfold Naming.instruction at h
    split_ifs at h
    all_goals cases h
  have comment (content raw : Bytes) : Naming.comment content ≠ .error (.text raw) := by
    intro h
    unfold Naming.comment at h
    split_ifs at h
    all_goals cases h
  have marked (content raw : Bytes) : Naming.marked content ≠ .error (.text raw) := by
    intro h
    unfold Naming.marked at h
    split_ifs at h
    all_goals cases h
  have doctype (content raw : Bytes) : Naming.doctype content ≠ .error (.text raw) := by
    intro h
    unfold Naming.doctype at h
    split_ifs at h
    all_goals cases h
  intro h
  cases r with
  | nil => cases h
  | cons b r =>
    rw [frontMarkup] at h
    split_ifs at h
    · cases r with
      | nil => cases h
      | cons c r =>
        rw [frontDeclaration] at h
        split_ifs at h
        · exact frontClosed_ne_text marked raw h
        · exact frontClosed_ne_text comment raw h
        · exact frontClosed_ne_text doctype raw h
        · cases h
    · exact frontClosed_ne_text instruction raw h
    · exact frontClosed_ne_text endTag raw h
    · exact frontClosed_ne_text tag raw h

theorem front_text {bs raw : Bytes} (h : front bs = .ending (.text raw)) : raw = bs := by
  cases bs with
  | nil =>
    cases h
    rfl
  | cons b r =>
    rw [front] at h
    split_ifs at h
    · exact absurd h (frontMarkup_ne_text r raw)
    · have split := List.takeWhile_append_dropWhile (p := (!isLt ·)) (l := b :: r)
      rw [frontText] at h
      cases hd : (b :: r).dropWhile (!isLt ·) with
      | nil =>
        rw [hd] at h split
        cases h
        rwa [List.append_nil] at split
      | cons c rest =>
        rw [hd] at h
        cases h

theorem splitClosing_none (next : Closing σ) (more : Bytes) :
    ∀ {bs : Bytes} {state : σ} {seen content rest : Bytes},
      splitClosing next state seen bs = none →
      splitClosing next state seen (bs ++ more) = some (content, rest) → rest <:+ more
  | [], _, _, _, _, _, h => splitClosing_suffix next h
  | b :: r, state, seen, content, rest, none_, h => by
    rw [List.cons_append, splitClosing] at h
    rw [splitClosing] at none_
    cases hb : next state b with
    | none =>
      rw [hb] at none_
      cases none_
    | some state' =>
      rw [hb] at none_ h
      exact splitClosing_none next more none_ h

section
variable {more rest : Bytes} {x : Lexeme} {e : Ending}

theorem frontClosed_ending {next : Closing σ} {state : σ} {token : Naming} {around : Nat} {r : Bytes}
    (open_ : frontClosed next state token around r = .ending e)
    (h : frontClosed next state token around (r ++ more) = .lexeme x rest) : rest <:+ more := by
  rw [frontClosed] at open_ h
  cases hs : splitClosing next state [] r with
  | none =>
    split at h
    · cases h
    · next closed =>
      split at h <;> cases h
      exact splitClosing_none next more hs closed
  | some split =>
    rw [hs] at open_
    rw [splitClosing_append next more hs] at h
    dsimp only at open_ h
    cases ht : token split.1 with
    | error e =>
      rw [ht] at h
      cases h
    | ok t =>
      rw [ht] at open_
      cases open_

theorem frontDeclaration_ending {r : Bytes} (open_ : frontDeclaration r = .ending e)
    (h : frontDeclaration (r ++ more) = .lexeme x rest) : rest <:+ more := by
  cases r with
  | nil => exact frontDeclaration_suffix h
  | cons b r =>
    rw [frontDeclaration] at open_
    rw [List.cons_append, frontDeclaration] at h
    split_ifs at open_ h
    · exact frontClosed_ending open_ h
    · exact frontClosed_ending open_ h
    · exact frontClosed_ending open_ h

theorem frontMarkup_ending {r : Bytes} (open_ : frontMarkup r = .ending e)
    (h : frontMarkup (r ++ more) = .lexeme x rest) : rest <:+ more := by
  cases r with
  | nil => exact frontMarkup_suffix h
  | cons b r =>
    rw [frontMarkup] at open_
    rw [List.cons_append, frontMarkup] at h
    split_ifs at open_ h
    · exact frontDeclaration_ending open_ h
    · exact frontClosed_ending open_ h
    · exact frontClosed_ending open_ h
    · exact frontClosed_ending open_ h

theorem frontText_ending {bs : Bytes} (open_ : frontText bs = .ending e)
    (h : frontText (bs ++ more) = .lexeme x rest) : rest <:+ more := by
  rw [frontText, List.dropWhile_append_of_pos (not_lt_of_ending open_)] at h
  split at h <;> cases h
  exact List.dropWhile_suffix _

/-- An input from which no token can be cut lies within the first token that more input gives. -/
theorem front_ending {bs : Bytes} (open_ : front bs = .ending e)
    (h : front (bs ++ more) = .lexeme x rest) : bs.length ≤ x.size := by
  have later : rest <:+ more := by
    cases bs with
    | nil => exact front_suffix h
    | cons b r =>
      rw [front] at open_
      rw [List.cons_append, front] at h
      split_ifs at open_ h
      · exact frontMarkup_ending open_ h
      · exact frontText_ending open_ h
  have length := front_length h
  have shorter := later.length_le
  rw [List.length_append] at length
  omega

end

theorem lex_induction {motive : Bytes → Prop}
    (ending : ∀ bs e, front bs = .ending e → motive bs)
    (lexeme : ∀ bs x rest, front bs = .lexeme x rest → motive rest → motive bs) (bs : Bytes) :
    motive bs := by
  induction hn : bs.length using Nat.strongRecOn generalizing bs with
  | ind n ih =>
    cases h : front bs with
    | ending e => exact ending bs e h
    | lexeme x rest =>
      have shorter := front_length h
      have pos := front_size_pos h
      exact lexeme bs x rest h (ih rest.length (by omega) rest rfl)

theorem lexFrom_of_ending (seen : List Lexeme) {bs : Bytes} {e : Ending}
    (h : front bs = .ending e) : lexFrom seen bs = (seen.reverse, e) := by
  rw [lexFrom]
  split
  · next h' =>
    cases h.symm.trans h'
    rfl
  · next h' => cases h.symm.trans h'

theorem lexFrom_of_lexeme (seen : List Lexeme) {bs rest : Bytes} {x : Lexeme}
    (h : front bs = .lexeme x rest) : lexFrom seen bs = lexFrom (x :: seen) rest := by
  rw [lexFrom]
  split
  · next h' => cases h.symm.trans h'
  · next h' =>
    cases h.symm.trans h'
    rfl

theorem lexFrom_eq (seen : List Lexeme) (bs : Bytes) :
    lexFrom seen bs = (seen.reverse ++ (lex bs).1, (lex bs).2) := by
  rw [lex]
  induction bs using lex_induction generalizing seen with
  | ending bs e h => simp only [lexFrom_of_ending _ h, List.reverse_nil, List.append_nil]
  | lexeme bs x rest h ih =>
    rw [lexFrom_of_lexeme _ h, lexFrom_of_lexeme _ h, ih, ih [x]]
    simp only [List.reverse_cons, List.reverse_nil, List.nil_append, List.append_assoc]

theorem lex_of_ending {bs : Bytes} {e : Ending} (h : front bs = .ending e) : lex bs = ([], e) :=
  lexFrom_of_ending [] h

theorem lex_of_lexeme {bs rest : Bytes} {x : Lexeme} (h : front bs = .lexeme x rest) :
    lex bs = (x :: (lex rest).1, (lex rest).2) := by
  rw [lex, lexFrom_of_lexeme [] h, lexFrom_eq, List.reverse_cons, List.reverse_nil, List.nil_append,
    List.singleton_append]

theorem uncut_of_ending {bs : Bytes} {e : Ending} (h : front bs = .ending e) : uncut bs = bs := by
  rw [uncut, lex_of_ending h, extent_nil, List.drop_zero]

theorem uncut_of_lexeme {bs rest : Bytes} {x : Lexeme} (h : front bs = .lexeme x rest) :
    uncut bs = uncut rest := by
  rw [uncut, lex_of_lexeme h, extent_cons, ← List.drop_drop, ← front_rest h, uncut]

theorem uncut_suffix (bs : Bytes) : uncut bs <:+ bs := List.drop_suffix _ bs

theorem front_uncut (bs : Bytes) : front (uncut bs) = .ending (lex bs).2 := by
  induction bs using lex_induction with
  | ending bs e h => rw [uncut_of_ending h, lex_of_ending h, h]
  | lexeme bs x rest h ih => rw [uncut_of_lexeme h, lex_of_lexeme h, ih]

theorem extent_add_uncut (bs : Bytes) : extent (lex bs).1 + (uncut bs).length = bs.length := by
  induction bs using lex_induction with
  | ending bs e h => rw [uncut_of_ending h, lex_of_ending h, extent_nil, Nat.zero_add]
  | lexeme bs x rest h ih =>
    rw [uncut_of_lexeme h, lex_of_lexeme h, extent_cons, ← front_length h, ← ih, Nat.add_assoc]

theorem front_lexeme_append {bs rest : Bytes} {x : Lexeme} (h : front bs = .lexeme x rest)
    (more : Bytes) : front (bs ++ more) = .lexeme x (rest ++ more) := by
  have settled : (front bs).Settled bs.length := by
    rw [h]
    trivial
  rw [front_append more settled, h]
  rfl

/-- The tokens of an input, and then those of what was left over with more after it, are the tokens
of the whole. -/
theorem lex_append (bs more : Bytes) :
    lex (bs ++ more) = ((lex bs).1 ++ (lex (uncut bs ++ more)).1, (lex (uncut bs ++ more)).2) := by
  induction bs using lex_induction with
  | ending bs e h => rw [uncut_of_ending h, lex_of_ending h, List.nil_append]
  | lexeme bs x rest h ih =>
    rw [lex_of_lexeme (front_lexeme_append h more), lex_of_lexeme h, uncut_of_lexeme h, ih,
      List.cons_append]

theorem uncut_append (bs more : Bytes) : uncut (bs ++ more) = uncut (uncut bs ++ more) := by
  induction bs using lex_induction with
  | ending bs e h => rw [uncut_of_ending h]
  | lexeme bs x rest h ih =>
    rw [uncut_of_lexeme (front_lexeme_append h more), uncut_of_lexeme h, ih]

theorem uncut_of_text {bs raw : Bytes} (h : (lex bs).2 = .text raw) : uncut bs = raw := by
  have ending := front_uncut bs
  rw [h] at ending
  exact (front_text ending).symm

theorem lexWhole_cases (bs : Bytes) :
    lexWhole bs = lex bs
      ∨ uncut bs ≠ [] ∧ front (uncut bs) = .ending (.text (uncut bs))
        ∧ lexWhole bs =
          ((lex bs).1 ++ [⟨.text (uncut bs), (uncut bs).length⟩], .text []) := by
  have open_ := front_uncut bs
  have text := @uncut_of_text bs
  rw [lexWhole]
  generalize lex bs = lexed at open_ text ⊢
  rcases lexed with ⟨xs, raw | _ | _ | _⟩
  · rw [text rfl] at open_ ⊢
    dsimp only
    split_ifs with empty
    · exact .inl (by rw [empty])
    · exact .inr ⟨empty, open_, rfl⟩
  all_goals exact .inl rfl

theorem lexWhole_append (bs more : Bytes) :
    lexWhole (bs ++ more) =
      ((lex bs).1 ++ (lexWhole (uncut bs ++ more)).1, (lexWhole (uncut bs ++ more)).2) := by
  rw [lexWhole, lexWhole, lex_append]
  rcases lex (uncut bs ++ more) with ⟨xs, raw | _ | _ | _⟩
  · dsimp only
    split_ifs
    · rfl
    · rw [List.append_assoc]
  all_goals rfl

theorem extent_lexWhole_le (bs : Bytes) : extent (lexWhole bs).1 ≤ bs.length := by
  have whole := extent_add_uncut bs
  rcases lexWhole_cases bs with same | ⟨-, -, more⟩
  · rw [same]
    omega
  · rw [more, extent_append, extent_cons, extent_nil]
    exact Nat.le_of_eq whole

theorem extent_lexWhole {bs : Bytes} (complete : (lexWhole bs).2 = .text []) :
    extent (lexWhole bs).1 = bs.length := by
  have whole := extent_add_uncut bs
  rcases lexWhole_cases bs with same | ⟨-, -, more⟩
  · rw [same] at complete ⊢
    rwa [uncut_of_text complete] at whole
  · rw [more, extent_append, extent_cons, extent_nil]
    exact whole

theorem lexWhole_head {bs more : Bytes} {e : Ending} {x : Lexeme} {xs : List Lexeme}
    (open_ : front bs = .ending e) (h : (lexWhole (bs ++ more)).1 = x :: xs) :
    bs.length ≤ x.size := by
  cases hf : front (bs ++ more) with
  | lexeme y rest =>
    have first : x = y := by
      rcases lexWhole_cases (bs ++ more) with same | ⟨-, -, added⟩
      · rw [same, lex_of_lexeme hf] at h
        exact (List.cons.inj h).1.symm
      · rw [added, lex_of_lexeme hf] at h
        exact (List.cons.inj h).1.symm
    rw [first]
    exact front_ending open_ hf
  | ending e' =>
    rcases lexWhole_cases (bs ++ more) with same | ⟨-, -, added⟩
    · rw [same, lex_of_ending hf] at h
      cases h
    · rw [added, lex_of_ending hf, uncut_of_ending hf] at h
      cases h
      simp

theorem front_open_text {raw : Bytes} (inhabited : raw ≠ []) (h : front raw = .ending (.text raw)) :
    front (raw ++ [0x3C]) = .lexeme ⟨.text raw, raw.length⟩ [0x3C] := by
  cases raw with
  | nil => exact absurd rfl inhabited
  | cons b r =>
    rw [front] at h
    split_ifs at h with markup
    · exact absurd h (frontMarkup_ne_text r _)
    · have plain := not_lt_of_ending h
      rw [List.cons_append, front, if_neg markup, ← List.cons_append, frontText,
        List.dropWhile_append_of_pos plain, List.takeWhile_append_of_pos plain]
      simp [isLt]

theorem lex_uncut_append {bs : Bytes} (more : Bytes)
    (h : Front.Settled (uncut bs).length (.ending (lex bs).2)) :
    lex (uncut bs ++ more) = ([], (lex bs).2) := by
  apply lex_of_ending
  rw [front_append more (by rw [front_uncut]; exact h), front_uncut]
  rfl

end XmppStream.Markup
