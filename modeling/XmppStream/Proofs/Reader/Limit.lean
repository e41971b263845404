import XmppStream.Proofs.Reader.Pieces
import XmppStream.Proofs.Reader.Stretches

/-! The limit on the size of a stanza. A stream in which every stretch fits is never refused for its
size, wherever a transport cuts it. -/

namespace XmppStream

/-- Whether a fault says that there was too much input. -/
def ReaderFault.Overflows (e : ReaderFault) : Prop := ∃ size limit, e = .overflow size limit

@[simp]
theorem ReaderFault.not_overflows_markup (why : MarkupFault) : ¬ (markup why).Overflows := by
  rintro ⟨size, limit, h⟩
  cases h

@[simp]
theorem ReaderFault.not_overflows_framing (why : FramingFault) : ¬ (framing why).Overflows := by
  rintro ⟨size, limit, h⟩
  cases h

namespace Reader
open Markup

theorem apply_error {r : Reader} {t : Token} {e : ReaderFault} (h : r.apply t = .error e) :
    ¬ e.Overflows := by
  cases refuses_of_apply h with
  | opening why => cases why <;> simp
  | closing ends why => cases why <;> simp
  | text why => simp
  | textAfterClose => simp

/-- Each stretch to come has the limit for itself, and the first one what is left of it. -/
def Room (limit charged : Nat) : List (List Lexeme) → Prop
  | [] => True
  | first :: rest => charged + extent first ≤ limit ∧ ∀ s ∈ rest, extent s ≤ limit

namespace Room

variable {framing : Framing} {l : Level} {limit charged : Nat} {x : Lexeme} {xs : List Lexeme}

theorem of_forall {parts : List (List Lexeme)} (fits : ∀ s ∈ parts, extent s ≤ limit) :
    Room limit 0 parts := by
  cases parts with
  | nil => trivial
  | cons first rest =>
    rw [List.forall_mem_cons] at fits
    exact ⟨by simpa using fits.1, fits.2⟩

theorem head (room : Room limit charged (stretches framing l (x :: xs))) :
    charged + x.size ≤ limit := by
  rw [stretches] at room
  split_ifs at room
  · exact room.1
  · generalize stretches framing (l.move framing x.token) xs = cut at room
    cases cut with
    | nil => exact room.1
    | cons first rest =>
      have fits := room.1
      rw [extent_cons] at fits
      omega

theorem tail (room : Room limit charged (stretches framing l (x :: xs))) :
    Room limit (if (l.move framing x.token).inside = 0 then 0 else charged + x.size)
      (stretches framing (l.move framing x.token) xs) := by
  rw [stretches] at room
  generalize stretches framing (l.move framing x.token) xs = cut at room ⊢
  split_ifs at room ⊢
  · exact of_forall room.2
  · cases cut with
    | nil => trivial
    | cons first rest =>
      have fits := room.1
      rw [extent_cons] at fits
      exact ⟨by omega, room.2⟩

end Room

structure HasRoom (r : Reader) (l : Level) (xs : List Lexeme) : Prop where
  ready : r.fault = none
  stands : Stands l r
  room : Room r.limit r.charged (stretches r.framing l xs)

namespace HasRoom

variable {r : Reader} {l : Level} {x : Lexeme} {xs ys : List Lexeme}

theorem step (h : HasRoom r l (x :: xs)) :
    HasRoom (r.step x).1 (l.move r.framing x.token) xs
      ∨ ∃ e, (r.step x).1.fault = some e ∧ ¬ e.Overflows := by
  rw [Reader.step, if_neg (by rw [h.ready]; simp)]
  cases applied : r.apply x.token with
  | error e => exact .inr ⟨e, rfl, apply_error applied⟩
  | ok taken =>
    left
    obtain ⟨r', events⟩ := taken
    obtain ⟨charged, fault⟩ := charged_apply applied
    have setting := SameSetting.apply applied
    have stands := h.stands.apply applied
    -- The token lies in the first stretch, for which there is room besides what is charged.
    have fits : r'.charged + x.size ≤ r'.limit := by
      rw [charged, setting.limit]
      exact h.room.head
    dsimp only
    rw [charge_of_fits fits]
    refine ⟨fault.trans h.ready, stands.charging _, ?_⟩
    show Room r'.limit (if r'.nodes = [] then 0 else r'.charged + x.size)
      (stretches r'.framing _ xs)
    simp only [stands.nodes_eq_nil, charged, setting.limit, setting.framing]
    exact h.room.tail

theorem keeping (h : HasRoom r l xs) (left : Bytes) : HasRoom (r.keeping left) l xs :=
  ⟨h.ready, h.stands.keeping left, h.room⟩

theorem steps (h : HasRoom r l (xs ++ ys)) :
    HasRoom (r.steps xs).1 (l.moves r.framing xs) ys
      ∨ ∃ e, (r.steps xs).1.fault = some e ∧ ¬ e.Overflows := by
  induction xs generalizing r l with
  | nil => exact .inl h
  | cons x xs ih =>
    rcases h.step with next | ⟨e, fault, small⟩
    · have run := ih next
      rwa [(SameSetting.step r x).framing] at run
    · right
      refine ⟨e, ?_, small⟩
      show ((r.step x).1.steps xs).1.fault = some e
      rw [steps_of_fault (by rw [fault]; rfl), fault]

end HasRoom

theorem endingFault_small {limit : Nat} {left : Bytes} {ending : Ending} {e : ReaderFault}
    (small : left.length ≤ limit) (h : endingFault limit left ending = some e) : ¬ e.Overflows := by
  rw [endingFault] at h
  split_ifs at h with unnamed unknown large
  · cases h
    simp
  · cases h
    simp
  · omega

structure Follows (r : Reader) (more : Bytes) : Prop where
  level : ∃ l, HasRoom r l (lexWhole (r.kept ++ more)).1
  complete : (lexWhole (r.kept ++ more)).2 = .text []

namespace Follows

variable {r : Reader} {data more : Bytes}

/-- What a push keeps is the beginning of a token to come, for which there is room. -/
theorem left_le {bs : Bytes} {l : Level} {e : Ending} (h : HasRoom r l (lexWhole (bs ++ more)).1)
    (complete : (lexWhole (bs ++ more)).2 = .text []) (open_ : front bs = .ending e) :
    bs.length ≤ r.limit := by
  have whole := extent_lexWhole complete
  cases ahead : (lexWhole (bs ++ more)).1 with
  | nil =>
    rw [ahead, List.length_append, extent_nil] at whole
    omega
  | cons x xs =>
    have within := lexWhole_head open_ ahead
    rw [ahead] at h
    have room := h.room.head
    omega

theorem push (h : Follows r (data ++ more)) (mark : ¬ byteOrderMark <+: r.kept ++ data) :
    Follows (r.push data).1 more ∨ ∃ e, (r.push data).1.fault = some e ∧ ¬ e.Overflows := by
  obtain ⟨⟨l, room⟩, complete⟩ := h
  have ready := room.ready
  -- The tokens of this push come first, and what it keeps begins the others.
  rw [← List.append_assoc, lexWhole_append] at room complete
  dsimp only at room complete
  have run := (room.keeping []).steps
  have open_ := front_uncut (r.kept ++ data)
  rw [push_eq ready mark]
  generalize (r.keeping []).steps (lex (r.kept ++ data)).1 = taken at run ⊢
  generalize uncut (r.kept ++ data) = left at run complete open_ ⊢
  rcases run with later | ⟨e, fault, small⟩
  · cases ended : endingFault taken.1.limit left (lex (r.kept ++ data)).2 with
    | none =>
      rw [settle_of_fine later.ready ended]
      exact .inl ⟨⟨_, later.keeping left⟩, complete⟩
    | some e =>
      right
      refine ⟨e, by rw [fault_settle, later.ready, ended, Option.none_or], ?_⟩
      exact endingFault_small (left_le later complete open_) ended
  · exact .inr ⟨e, by rw [fault_settle, fault, Option.some_or], small⟩

theorem pushAll {pieces : List Bytes} (h : Follows r (pieces.flatten ++ more))
    (mark : ¬ byteOrderMark <:+: r.kept ++ pieces.flatten) :
    ∀ e, (r.pushAll pieces).1.fault = some e → ¬ e.Overflows := by
  induction pieces generalizing r with
  | nil =>
    obtain ⟨l, room⟩ := h.level
    simp [Reader.pushAll, room.ready]
  | cons data pieces ih =>
    obtain ⟨l, room⟩ := h.level
    rw [List.flatten_cons] at h mark
    rw [List.append_assoc] at h
    have mark_data : ¬ byteOrderMark <+: r.kept ++ data := by
      rw [← List.append_assoc] at mark
      exact @not_mark_of_append [] _ _ mark
    rw [Reader.pushAll]
    rcases h.push mark_data with next | ⟨e, fault, small⟩
    · obtain ⟨l', room'⟩ := next.level
      rw [if_neg (by rw [room'.ready]; simp)]
      exact ih next (not_mark_of_push room.ready mark)
    · rw [if_pos (by rw [fault]; rfl), fault]
      rintro _ ⟨⟩
      exact small

end Follows

/-- A stream in which each stanza fits, and each token outside of stanzas, never overflows: however
the beginning of it that has come so far is cut into pieces. -/
theorem pushAll_never_overflows (framing : Framing) (limit : Nat) (whole : Bytes)
    (pieces : List Bytes) (complete : (lexWhole whole).2 = .text [])
    (fits : ∀ s ∈ stretches framing {} (lexWhole whole).1, extent s ≤ limit)
    (begins : pieces.flatten <+: whole) (mark : ¬ byteOrderMark <:+: pieces.flatten) :
    ∀ e, ((fresh framing limit).pushAll pieces).1.fault = some e → ¬ e.Overflows := by
  obtain ⟨more, rfl⟩ := begins
  exact Follows.pushAll ⟨⟨{}, rfl, .fresh framing limit, .of_forall fits⟩, complete⟩ mark

def tightInput : Bytes := Utf8.encode "<a><b/>xy</a> <c/><!-- z --><d>v</d>"

def tightPieces : List Bytes :=
  [Utf8.encode "<a><b", Utf8.encode "/>xy</", Utf8.encode "a> <c/><!-", Utf8.encode "- z --><d>"]

theorem pushAll_tightPieces :
    (lexWhole tightInput).2 = .text []
      ∧ (∀ s ∈ stretches .standalone {} (lexWhole tightInput).1, extent s ≤ 13)
      ∧ tightPieces.flatten <+: tightInput ∧ ¬ byteOrderMark <:+: tightPieces.flatten
      ∧ ∀ e, ((fresh .standalone 13).pushAll tightPieces).1.fault = some e → ¬ e.Overflows :=
  have complete : (lexWhole tightInput).2 = .text [] := by decide +kernel
  have fits : ∀ s ∈ stretches .standalone {} (lexWhole tightInput).1, extent s ≤ 13 := by
    decide +kernel
  have begins : tightPieces.flatten <+: tightInput := by decide +kernel
  have mark : ¬ byteOrderMark <:+: tightPieces.flatten := by decide +kernel
  ⟨complete, fits, begins, mark,
    pushAll_never_overflows .standalone 13 tightInput tightPieces complete fits begins mark⟩

end Reader
end XmppStream
