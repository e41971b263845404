import XmppStream.Proofs.Reader.Charging
import XmppStream.Proofs.Reader.Pieces

/-! Each byte of a stream goes into one token. A push takes the bytes of its tokens off the front of
its buffer and keeps those after them; only where a byte order mark stands in front of the buffer
are the last bytes that were taken kept as well, and read again. -/

namespace XmppStream.Reader
open Markup

/-- A token with the bytes it was cut from. -/
structure Slice where
  lexeme : Lexeme
  bytes : Bytes
deriving DecidableEq, Repr

namespace Slice

/-- The bytes are those of the token and no others, as it is cut from them and some input after. -/
def Reads (s : Slice) : Prop := ∃ rest, front (s.bytes ++ rest) = .lexeme s.lexeme rest

def cut (bs : Bytes) : List Lexeme → List Slice
  | [] => []
  | x :: xs => ⟨x, bs.take x.size⟩ :: cut (bs.drop x.size) xs

theorem cut_append (bs : Bytes) (xs ys : List Lexeme) :
    cut bs (xs ++ ys) = cut bs xs ++ cut (bs.drop (extent xs)) ys := by
  induction xs generalizing bs with
  | nil => simp [cut]
  | cons x xs ih => simp [cut, ih]

@[simp]
theorem map_lexeme_cut (bs : Bytes) (xs : List Lexeme) : (cut bs xs).map lexeme = xs := by
  induction xs generalizing bs with
  | nil => rfl
  | cons x xs ih => simp [cut, ih]

@[simp]
theorem flatMap_bytes_cut (bs : Bytes) (xs : List Lexeme) :
    (cut bs xs).flatMap bytes = bs.take (extent xs) := by
  induction xs generalizing bs with
  | nil => simp [cut]
  | cons x xs ih => simp [cut, ih, List.take_add]

theorem reads_of_front {bs rest : Bytes} {x : Lexeme} (h : front bs = .lexeme x rest) :
    Reads ⟨x, bs.take x.size⟩ := by
  obtain rfl := front_rest h
  exact ⟨bs.drop x.size, by rwa [List.take_append_drop]⟩

theorem reads_cut_lex (bs : Bytes) : ∀ s ∈ cut bs (lex bs).1, s.Reads := by
  induction bs using lex_induction with
  | ending bs e h => simp [lex_of_ending h, cut]
  | lexeme bs x rest h ih =>
    rw [lex_of_lexeme h, cut, ← front_rest h]
    exact List.forall_mem_cons.2 ⟨reads_of_front h, ih⟩

theorem reads_cut_lexWhole (bs : Bytes) : ∀ s ∈ cut bs (lexWhole bs).1, s.Reads := by
  rcases lexWhole_cases bs with same | ⟨inhabited, open_, more⟩
  · rw [same]
    exact reads_cut_lex bs
  · rw [more, cut_append, ← uncut, cut, cut, List.take_length]
    refine List.forall_mem_append.2 ⟨reads_cut_lex bs, ?_⟩
    exact List.forall_mem_singleton.2 ⟨[0x3C], front_open_text inhabited open_⟩

end Slice

def markOf (buffer : Bytes) : Bytes :=
  if byteOrderMark.isPrefixOf buffer then byteOrderMark else []

/-- The tokens of a push, with their bytes. -/
def slices (r : Reader) (data : Bytes) : List Slice :=
  Slice.cut ((r.kept ++ data).drop (markOf (r.kept ++ data)).length) (tokens (r.kept ++ data)).1

def slicesAll (r : Reader) : List Bytes → List Slice
  | [] => []
  | data :: pieces =>
    if (r.push data).1.fault.isSome then r.slices data
    else r.slices data ++ (r.push data).1.slicesAll pieces

/-- No push of a stream in pieces has a byte order mark in front of its buffer. -/
def NeverMarked (r : Reader) : List Bytes → Prop
  | [] => True
  | data :: pieces => ¬ byteOrderMark <+: r.kept ++ data ∧ (r.push data).1.NeverMarked pieces

instance decidableNeverMarked (r : Reader) : (pieces : List Bytes) → Decidable (r.NeverMarked pieces)
  | [] => isTrue trivial
  | data :: pieces =>
    have := decidableNeverMarked (r.push data).1 pieces
    inferInstanceAs (Decidable (_ ∧ _))

theorem tokens_of_mark {buffer : Bytes} (h : byteOrderMark <+: buffer) :
    tokens buffer = lexWhole (buffer.drop 3) := by
  rw [tokens, if_pos (by rwa [List.isPrefixOf_iff_prefix])]
  rfl

theorem reads_slices (r : Reader) (data : Bytes) : ∀ s ∈ r.slices data, s.Reads := by
  unfold slices markOf
  split_ifs with mark
  · rw [tokens_of_mark (by rwa [← List.isPrefixOf_iff_prefix])]
    exact Slice.reads_cut_lexWhole _
  · rw [tokens_of_no_mark (by rwa [← List.isPrefixOf_iff_prefix])]
    exact Slice.reads_cut_lex _

theorem push_of_fine {r : Reader} {data : Bytes} (ready : r.fault = none)
    (fine : (r.push data).1.fault = none) :
    ((r.push data).1.keeping [], (r.push data).2)
        = (r.keeping []).steps ((r.slices data).map Slice.lexeme)
      ∧ (r.push data).1.kept = (r.kept ++ data).drop (extent (tokens (r.kept ++ data)).1) := by
  have kept : ((r.keeping []).steps (tokens (r.kept ++ data)).1).1.kept = [] :=
    (SameSetting.steps (r.keeping []) _).kept
  rw [slices, Slice.map_lexeme_cut]
  rw [push_eq_settle ready, fault_settle, Option.or_eq_none_iff] at fine
  rw [push_eq_settle ready, settle_of_fine fine.1 fine.2]
  exact ⟨by rw [keeping_keeping, keeping_eq_self kept], rfl⟩

theorem events_pushAll {r : Reader} (ready : r.fault = none) (pieces : List Bytes) :
    (r.pushAll pieces).2 = (r.steps ((r.slicesAll pieces).map Slice.lexeme)).2 := by
  induction pieces generalizing r with
  | nil => rfl
  | cons data pieces ih =>
    have first : (r.push data).2 = (r.steps ((r.slices data).map Slice.lexeme)).2 := by
      rw [push_eq_settle ready, settle, steps_keeping, slices, Slice.map_lexeme_cut]
    rw [pushAll, slicesAll]
    split_ifs with failed
    · exact first
    · have fine := Option.not_isSome_iff_eq_none.1 failed
      have took := (push_of_fine ready fine).1
      rw [steps_keeping] at took
      -- Beside what it keeps, the reader is as its tokens leave it.
      have state : (r.push data).1.keeping [] =
          (r.steps ((r.slices data).map Slice.lexeme)).1.keeping [] := congrArg Prod.fst took
      have later (xs : List Lexeme) : ((r.push data).1.steps xs).2 =
          ((r.steps ((r.slices data).map Slice.lexeme)).1.steps xs).2 := by
        have same := congrArg (fun r => (r.steps xs).2) state
        simpa only [steps_keeping] using same
      rw [List.map_append, steps_append, ← later, ← first, ih fine]

theorem push_drops {r : Reader} {data : Bytes} (ready : r.fault = none)
    (fine : (r.push data).1.fault = none) :
    ∃ left, r.kept ++ data =
        markOf (r.kept ++ data) ++ ((r.slices data).flatMap Slice.bytes ++ left)
      ∧ (r.push data).1.kept =
        (r.kept ++ data).drop ((r.slices data).flatMap Slice.bytes).length := by
  rw [(push_of_fine ready fine).2, slices, Slice.flatMap_bytes_cut]
  generalize r.kept ++ data = buffer
  have marked : markOf buffer <+: buffer := by
    unfold markOf
    split_ifs with mark
    · exact List.isPrefixOf_iff_prefix.1 mark
    · exact List.nil_prefix
  -- The tokens take no more than stands behind the mark.
  have fits : extent (tokens buffer).1 ≤ (buffer.drop (markOf buffer).length).length := by
    unfold markOf
    split_ifs with mark
    · rw [tokens_of_mark (List.isPrefixOf_iff_prefix.1 mark)]
      exact extent_lexWhole_le _
    · rw [tokens_of_no_mark (by rwa [← List.isPrefixOf_iff_prefix])]
      have whole := extent_add_uncut buffer
      simp only [List.length_nil, List.drop_zero]
      omega
  refine ⟨(buffer.drop (markOf buffer).length).drop (extent (tokens buffer).1), ?_, ?_⟩
  · rw [List.take_append_drop]
    exact (List.prefix_iff_eq_append.1 marked).symm
  · rw [List.length_take, Nat.min_eq_left fits]

theorem push_drops_unmarked {r : Reader} {data : Bytes} (ready : r.fault = none)
    (fine : (r.push data).1.fault = none) (mark : ¬ byteOrderMark <+: r.kept ++ data) :
    r.kept ++ data = (r.slices data).flatMap Slice.bytes ++ (r.push data).1.kept := by
  obtain ⟨left, buffer, kept⟩ := push_drops ready fine
  rw [markOf, if_neg (by rwa [List.isPrefixOf_iff_prefix]), List.nil_append] at buffer
  rw [kept, buffer, List.drop_left]

theorem pushAll_of_fine {r : Reader} {data : Bytes} {pieces : List Bytes}
    (fine : (r.pushAll (data :: pieces)).1.fault = none) :
    (r.push data).1.fault = none
      ∧ (r.pushAll (data :: pieces)).1 = ((r.push data).1.pushAll pieces).1 := by
  rw [pushAll] at fine ⊢
  split_ifs at fine ⊢ with failed
  · rw [fine] at failed
    cases failed
  · exact ⟨Option.not_isSome_iff_eq_none.1 failed, rfl⟩

theorem pushAll_eq_steps {r : Reader} {pieces : List Bytes} (ready : r.fault = none)
    (fine : (r.pushAll pieces).1.fault = none) :
    ((r.pushAll pieces).1.keeping [], (r.pushAll pieces).2)
      = (r.keeping []).steps ((r.slicesAll pieces).map Slice.lexeme) := by
  induction pieces generalizing r with
  | nil => rfl
  | cons data pieces ih =>
    have split := pushAll_of_fine fine
    have first := (push_of_fine ready split.1).1
    have rest := ih split.1 (by rwa [← split.2])
    have going : ¬ (r.push data).1.fault.isSome := by rw [split.1]; simp
    rw [pushAll, slicesAll, if_neg going, if_neg going, List.map_append, steps_append, ← first, ← rest]

theorem neverMarked_append {r : Reader} {pieces : List Bytes} {data : Bytes}
    (fine : (r.pushAll pieces).1.fault = none) (h : r.NeverMarked (pieces ++ [data])) :
    r.NeverMarked pieces ∧ ¬ byteOrderMark <+: (r.pushAll pieces).1.kept ++ data := by
  induction pieces generalizing r with
  | nil => exact ⟨trivial, h.1⟩
  | cons first pieces ih =>
    have split := pushAll_of_fine fine
    rw [split.2] at fine ⊢
    exact ⟨⟨h.1, (ih fine h.2).1⟩, (ih fine h.2).2⟩

theorem reads_slicesAll (r : Reader) (pieces : List Bytes) : ∀ s ∈ r.slicesAll pieces, s.Reads := by
  induction pieces generalizing r with
  | nil => simp [slicesAll]
  | cons data pieces ih =>
    rw [slicesAll]
    split_ifs
    · exact reads_slices r data
    · exact List.forall_mem_append.2 ⟨reads_slices r data, ih _⟩

/-- All that was pushed is in the tokens taken so far, in order, and then in the bytes kept. -/
theorem pushAll_drops {r : Reader} {pieces : List Bytes} (ready : r.fault = none)
    (fine : (r.pushAll pieces).1.fault = none) (unmarked : r.NeverMarked pieces) :
    r.kept ++ pieces.flatten =
      (r.slicesAll pieces).flatMap Slice.bytes ++ (r.pushAll pieces).1.kept := by
  induction pieces generalizing r with
  | nil => simp [slicesAll, pushAll]
  | cons data pieces ih =>
    have split := pushAll_of_fine fine
    have first := push_drops_unmarked ready split.1 unmarked.1
    have rest := ih split.1 (by rwa [← split.2]) unmarked.2
    rw [split.2, slicesAll, if_neg (by rw [split.1]; simp), List.flatMap_append, List.append_assoc,
      ← rest, List.flatten_cons, ← List.append_assoc, first, List.append_assoc]

/-- Where no byte order mark stands in front of a buffer, a push keeps what comes after the last token
it took, and over the whole run each byte is in one token or is still kept. The tokens are cut from
their own bytes, and they are all that a push takes. -/
theorem input_taken_once (framing : Framing) (limit : Nat) (pieces : List Bytes) (data : Bytes)
    (reached : ((fresh framing limit).pushAll pieces).1.fault = none)
    (fine : (((fresh framing limit).pushAll pieces).1.push data).1.fault = none)
    (unmarked : (fresh framing limit).NeverMarked (pieces ++ [data])) :
    let r := ((fresh framing limit).pushAll pieces).1
    let before := (fresh framing limit).slicesAll pieces
    r.kept ++ data = (r.slices data).flatMap Slice.bytes ++ (r.push data).1.kept
      ∧ ((r.push data).1.keeping [], (r.push data).2)
        = (r.keeping []).steps ((r.slices data).map Slice.lexeme)
      ∧ pieces.flatten ++ data =
        (before ++ r.slices data).flatMap Slice.bytes ++ (r.push data).1.kept
      ∧ ∀ s ∈ before ++ r.slices data, s.Reads := by
  intro r before
  obtain ⟨earlier, mark⟩ := neverMarked_append reached unmarked
  have run : pieces.flatten = before.flatMap Slice.bytes ++ r.kept :=
    pushAll_drops rfl reached earlier
  have this_push := push_drops_unmarked reached fine mark
  refine ⟨this_push, (push_of_fine reached fine).1, ?_, ?_⟩
  · rw [run, List.append_assoc, this_push, List.flatMap_append, List.append_assoc]
  · exact List.forall_mem_append.2 ⟨reads_slicesAll _ _, reads_slices _ _⟩

def openPieces : List Bytes := [Utf8.encode "<a>x", Utf8.encode "y<b"]

theorem input_taken_once_openPieces :
    let r := ((fresh .standalone 40).pushAll openPieces).1
    let data := Utf8.encode "/>z</a"
    r.fault = none ∧ (r.push data).1.fault = none
      ∧ (fresh .standalone 40).NeverMarked (openPieces ++ [data])
      ∧ r.kept ++ data = (r.slices data).flatMap Slice.bytes ++ (r.push data).1.kept :=
  have reached : ((fresh .standalone 40).pushAll openPieces).1.fault = none := by decide +kernel
  have fine : (((fresh .standalone 40).pushAll openPieces).1.push (Utf8.encode "/>z</a")).1.fault
      = none := by decide +kernel
  have unmarked : (fresh .standalone 40).NeverMarked (openPieces ++ [Utf8.encode "/>z</a"]) := by
    decide +kernel
  ⟨reached, fine, unmarked, (input_taken_once .standalone 40 openPieces _ reached fine unmarked).1⟩

def markedInput : Bytes := byteOrderMark ++ Utf8.encode "<a><b/>"

/-- After a byte order mark the last bytes that were taken are kept. -/
theorem not_always_taken_once :
    ¬ ∀ (framing : Framing) (limit : Nat) (pieces : List Bytes) (data : Bytes),
      let r := ((fresh framing limit).pushAll pieces).1
      r.fault = none → (r.push data).1.fault = none →
        r.kept ++ data = markOf (r.kept ++ data)
          ++ ((r.slices data).flatMap Slice.bytes ++ (r.push data).1.kept) := by
  intro always
  have once := always .standalone 40 [] markedInput rfl (by decide +kernel)
  revert once
  decide +kernel

end XmppStream.Reader
