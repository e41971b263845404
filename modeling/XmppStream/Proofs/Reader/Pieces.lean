import XmppStream.Proofs.Reader.Run

/-! Where a transport cuts a stream makes no difference: the reader ends in the same state, with
the same events and the same fault, as if the whole stream came at once. Only a piece that leaves
more than the limit unread can end a stream early. -/

namespace XmppStream.Reader
open Markup

theorem endingFault_cases {limit : Nat} {left : Bytes} {ending : Ending} {e : ReaderFault}
    (h : endingFault limit left ending = some e) :
    e = .overflow left.length limit ∨ (Front.Settled left.length (.ending ending)
      ∧ ∀ more, endingFault limit (left ++ more) ending = some e) := by
  rw [endingFault] at h
  split_ifs at h with unnamed unknown large
  · right
    refine ⟨.inl unnamed, fun more => ?_⟩
    rw [endingFault, if_pos unnamed, h]
  · right
    refine ⟨.inr ⟨unknown.1, by omega⟩, fun more => ?_⟩
    have longer : 9 ≤ (left ++ more).length := by
      rw [List.length_append]
      omega
    rw [endingFault, if_neg unnamed, if_pos ⟨unknown.1, longer⟩, h]
  · left
    cases h
    rfl

theorem not_mark_of_append {before bs after : Bytes}
    (h : ¬ byteOrderMark <:+: before ++ (bs ++ after)) : ¬ byteOrderMark <+: bs := by
  intro hp
  exact h ((hp.isInfix.trans (List.prefix_append bs after).isInfix).trans
    (List.suffix_append before (bs ++ after)).isInfix)

theorem push_whole {r : Reader} {data more : Bytes} (ready : r.fault = none)
    (mark : ¬ byteOrderMark <+: r.kept ++ (data ++ more)) :
    let taken := (r.keeping []).steps (lex (r.kept ++ data)).1
    let rest := uncut (r.kept ++ data) ++ more
    r.push (data ++ more) =
      settle ((taken.1.steps (lex rest).1).1, taken.2 ++ (taken.1.steps (lex rest).1).2)
        (uncut rest) (lex rest).2 := by
  dsimp only
  rw [push_eq ready mark, ← List.append_assoc, lex_append (r.kept ++ data),
    uncut_append (r.kept ++ data), steps_append]

/-- Two pieces pushed one after the other are as good as one. -/
theorem push_append {r : Reader} {data more : Bytes} (ready : r.fault = none)
    (mark : ¬ byteOrderMark <:+: r.kept ++ (data ++ more)) (fits : ¬ r.KeepsTooMuch data) :
    r.push (data ++ more) =
      if (r.push data).1.fault.isSome then r.push data
      else (((r.push data).1.push more).1, (r.push data).2 ++ ((r.push data).1.push more).2) := by
  have mark_data : ¬ byteOrderMark <+: r.kept ++ data := by
    rw [← List.append_assoc] at mark
    exact @not_mark_of_append [] _ _ mark
  have mark_left : ¬ byteOrderMark <+: uncut (r.kept ++ data) ++ more := by
    obtain ⟨before, split⟩ := uncut_suffix (r.kept ++ data)
    apply @not_mark_of_append before _ []
    rwa [List.append_nil, ← List.append_assoc, split, List.append_assoc]
  have setting := SameSetting.steps (r.keeping []) (lex (r.kept ++ data)).1
  have first := push_eq ready mark_data
  have whole := push_whole ready fun h => mark h.isInfix
  have stuck := @lex_uncut_append (r.kept ++ data) more
  rw [KeepsTooMuch, tokens_of_no_mark mark_data, ← uncut, first] at fits
  dsimp only at whole
  rw [whole, first]
  generalize (r.keeping []).steps (lex (r.kept ++ data)).1 = taken at *
  generalize uncut (r.kept ++ data) = left at *
  generalize (lex (r.kept ++ data)).2 = ending at *
  cases hf : taken.1.fault with
  -- A token of the first piece is at fault: nothing after it is taken in either run.
  | some e =>
    have faulty : taken.1.fault.isSome := by rw [hf]; rfl
    rw [steps_of_fault faulty, List.append_nil, if_pos (by rw [fault_settle, hf]; rfl)]
    exact settle_of_fault faulty _ _ _ _
  | none =>
    cases he : endingFault taken.1.limit left ending with
    -- The first piece is taken without a fault, so the second push goes on from what is left.
    | none =>
      have next := push_eq (r := taken.1.keeping left) hf mark_left
      have empty : taken.1.kept = [] := setting.kept
      rw [keeping_keeping, keeping_eq_self empty] at next
      rw [settle_of_fine hf he, if_neg (by rw [fault_keeping, hf]; simp)]
      dsimp only
      rw [next]
      rfl
    | some e =>
      rcases endingFault_cases he with rfl | ⟨settled, later⟩
      -- Too much is left, which `fits` rules out; any other fault is there with more input, too.
      · exact absurd ⟨ready, hf, by rw [fault_settle, hf, he, setting.limit]; rfl⟩ fits
      · have same : uncut (left ++ more) = left ++ more := by
          rw [uncut, stuck settled, extent_nil, List.drop_zero]
        rw [if_pos (by rw [fault_settle, hf, he]; rfl), stuck settled, same, steps, List.append_nil,
          settle, settle, hf, he, later more]
        rfl

theorem kept_push {r : Reader} {data : Bytes} (ready : r.fault = none)
    (mark : ¬ byteOrderMark <+: r.kept ++ data) : (r.push data).1.kept <:+ r.kept ++ data := by
  rw [push_eq ready mark, settle]
  dsimp only
  split_ifs
  · exact List.nil_suffix
  · exact uncut_suffix _

theorem not_mark_of_push {r : Reader} {data more : Bytes} (ready : r.fault = none)
    (mark : ¬ byteOrderMark <:+: r.kept ++ (data ++ more)) :
    ¬ byteOrderMark <:+: (r.push data).1.kept ++ more := by
  rw [← List.append_assoc] at mark
  obtain ⟨before, split⟩ := kept_push ready (@not_mark_of_append [] _ _ mark)
  intro h
  apply mark
  rw [← split, List.append_assoc]
  exact h.trans (List.suffix_append _ _).isInfix

theorem pushAll_cons {r : Reader} {data : Bytes} {pieces : List Bytes} (ready : r.fault = none)
    (mark : ¬ byteOrderMark <:+: r.kept ++ (data ++ pieces.flatten))
    (fits : r.NeverKeepsTooMuch (data :: pieces)) :
    r.pushAll (data :: pieces) = r.push (data ++ pieces.flatten) := by
  induction pieces generalizing r data with
  | nil =>
    rw [pushAll, pushAll, List.flatten_nil, List.append_nil, List.append_nil]
    split_ifs <;> rfl
  | cons next pieces ih =>
    have whole := push_append ready mark fits.1
    rw [List.flatten_cons] at mark whole ⊢
    rw [whole, pushAll]
    split_ifs with hf
    · rfl
    · have ready' : (r.push data).1.fault = none := by
        rwa [Option.not_isSome_iff_eq_none] at hf
      rw [ih ready' (not_mark_of_push ready mark) fits.2]

/-- A stream that has no byte order mark in it is read in the same way however it is cut into
pieces, as long as no push fails for the number of bytes that it would keep: the reader ends in the
same state, with the same fault if any, and delivers the same events. -/
theorem pushAll_eq_push_flatten (framing : Framing) (limit : Nat) (pieces : List Bytes)
    (mark : ¬ byteOrderMark <:+: pieces.flatten)
    (fits : (fresh framing limit).NeverKeepsTooMuch pieces) :
    (fresh framing limit).pushAll pieces = (fresh framing limit).push pieces.flatten := by
  cases pieces with
  | nil =>
    have nothing : lex [] = ([], .text []) := lex_of_ending rfl
    have no_mark : ¬ byteOrderMark <+: [] := by decide
    have push_nil := @push_eq (fresh framing limit) [] rfl no_mark
    rw [pushAll, List.flatten_nil, push_nil, show (fresh framing limit).kept ++ [] = [] from rfl,
      uncut, nothing]
    rfl
  | cons data pieces => exact pushAll_cons rfl mark fits

def cutPieces : List Bytes :=
  [Utf8.encode "<a b='&l", Utf8.encode "t;>'>" ++ [0xC3], [0xA9], Utf8.encode "<![CDA", [],
    Utf8.encode "TA[<]]></a> <", Utf8.encode "c/"]

theorem pushAll_cutPieces :
    ¬ byteOrderMark <:+: cutPieces.flatten
      ∧ (fresh .standalone 40).NeverKeepsTooMuch cutPieces
      ∧ (fresh .standalone 40).pushAll cutPieces = (fresh .standalone 40).push cutPieces.flatten :=
  have mark : ¬ byteOrderMark <:+: cutPieces.flatten := by decide +kernel
  have fits : (fresh .standalone 40).NeverKeepsTooMuch cutPieces := by decide +kernel
  ⟨mark, fits, pushAll_eq_push_flatten .standalone 40 cutPieces mark fits⟩

end XmppStream.Reader
