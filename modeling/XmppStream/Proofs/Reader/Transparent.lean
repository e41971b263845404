import Mathlib.Logic.Relation
import XmppStream.Proofs.Markup.Variants
import XmppStream.Proofs.Reader.Alike
import XmppStream.Proofs.Reader.Written

/-! Comments, instructions and document type declarations can be put into a stream anywhere between
its tags and in its text, and a marked section can be written as escaped text: nothing else comes of
the stream. -/

namespace XmppStream.Reader
open Markup Reference

theorem isBlankText_append (first second : String) :
    isBlankText (first ++ second) = (isBlankText first && isBlankText second) := by
  rw [isBlankText, String.toList_append, List.all_append, isBlankText, isBlankText]

theorem characters_append (r : Reader) (first second : String) :
    (∃ r₁ r₂ s, r.characters first = .ok (r₁, []) ∧ r₁.characters second = .ok (r₂, [])
        ∧ r.characters (first ++ second) = .ok (s, []) ∧ Alike r₂ s)
      ∨ ∃ e, r.characters (first ++ second) = .error e
        ∧ (r.characters first = .error e
          ∨ r.characters first = .ok (r, []) ∧ r.characters second = .error e) := by
  cases inner : r.nodes with
  | nil =>
    -- Outside of all nodes text changes nothing, so each part is looked at for itself.
    have refuses {text : String} (visible : r.finished ∧ !isBlankText text) :
        r.characters text = .error (.framing .textAfterClose) := by
      rw [characters, inner]
      exact if_pos visible
    have takes {text : String} (fine : ¬ (r.finished ∧ !isBlankText text)) :
        r.characters text = .ok (r, []) := by
      rw [characters, inner]
      exact if_neg fine
    have blank := isBlankText_append first second
    by_cases visible : r.finished ∧ !isBlankText (first ++ second)
    · refine .inr ⟨_, refuses visible, ?_⟩
      by_cases early : r.finished ∧ !isBlankText first
      · exact .inl (refuses early)
      · exact .inr ⟨takes early, refuses (by grind)⟩
    · exact .inl ⟨r, r, r, takes (by grind), takes (by grind), takes visible, .refl r⟩
  | cons n nodes =>
    have inside (r : Reader) {m : OpenNode} {outer : List OpenNode} (inner : r.nodes = m :: outer)
        (text : String) : r.characters text =
          .ok ({ r with nodes := { m with text := text :: m.text } :: outer }, []) := by
      rw [characters, inner]
    -- The node then holds two pieces in place of one.
    refine .inl ⟨_, _, _, inside r inner first, inside _ rfl second, inside r inner _, ?_⟩
    exact ⟨_, rfl, .cons (.join n first second) (List.forall₂_same.2 fun m _ => .refl m)⟩

theorem apply_text {raw : Bytes} {text : String} (read : decodeText raw = .ok text) (r : Reader) :
    r.apply (.text raw) = r.characters text := by
  rw [apply, read]

theorem apply_text_error {raw : Bytes} {e : MarkupFault} (read : decodeText raw = .error e)
    (r : Reader) : r.apply (.text raw) = .error (.markup e) := by
  rw [apply, read]

theorem run_texts_error {left right : Bytes}
    (unread : ∀ first second, decodeText left = .ok first → decodeText right ≠ .ok second)
    (r : Reader) (ts : List Token) (e : ReaderFault) :
    SameOutcome (r.run (.text left :: .text right :: ts)) ({ r with fault := some e }, []) := by
  cases read : decodeText left with
  | error e' =>
    rw [run_of_error (apply_text_error read r)]
    exact ⟨rfl, rfl, rfl, rfl⟩
  | ok first =>
    have takes := apply_text read r
    -- The first text may itself be refused here, and is otherwise without effect on what is seen.
    cases taken : r.characters first with
    | error e' =>
      rw [run_of_error (takes.trans taken)]
      exact ⟨rfl, rfl, rfl, rfl⟩
    | ok result =>
      obtain ⟨r', events⟩ := result
      obtain ⟨rfl, steady⟩ := characters_cases taken
      have same : r'.depth = r.depth ∧ r'.finished = r.finished := by
        obtain ⟨n, nodes, -, rfl⟩ | rfl := steady <;> exact ⟨rfl, rfl⟩
      cases read' : decodeText right with
      | error e' =>
        rw [run_of_quiet (takes.trans taken), run_of_error (apply_text_error read' r')]
        exact ⟨rfl, rfl, same.1, same.2⟩
      | ok second => exact absurd read' (unread first second read)

theorem run_split {left right : Bytes} (boundary : ¬ Utf8.InSequence left right)
    (outside : ¬ InReference left right) (r : Reader) (ts : List Token) :
    SameOutcome (r.run (.text left :: .text right :: ts)) (r.run (.text (left ++ right) :: ts)) := by
  have parts := @decodeText_append left right boundary outside
  cases whole : decodeText (left ++ right) with
  | error e =>
    rw [run_of_error (apply_text_error whole r)]
    refine run_texts_error (fun first second read read' => ?_) r ts _
    rw [parts.2 ⟨first, second, read, read', rfl⟩] at whole
    cases whole
  | ok text =>
    obtain ⟨first, second, read, read', rfl⟩ := parts.1 whole
    have takes := apply_text read
    have takes' := apply_text read'
    have takesBoth := apply_text whole r
    rcases characters_append r first second with
      ⟨r₁, r₂, s, taken, taken', takenBoth, alike⟩ | ⟨e, refused, stops⟩
    · rw [run_of_quiet ((takes r).trans taken), run_of_quiet ((takes' r₁).trans taken'),
        run_of_quiet (takesBoth.trans takenBoth)]
      exact alike.run ts
    · rw [run_of_error (takesBoth.trans refused)]
      rcases stops with stops | ⟨taken, stops⟩
      · rw [run_of_error ((takes r).trans stops)]
        exact .refl _
      · rw [run_of_quiet ((takes r).trans taken), run_of_error ((takes' r).trans stops)]
        exact .refl _

/-- What is ignored makes no difference anywhere. -/
theorem run_ignored (r : Reader) (ts us : List Token) :
    r.run (ts ++ .ignored :: us) = r.run (ts ++ us) := by
  induction ts generalizing r with
  | nil => exact run_of_quiet rfl us
  | cons t ts ih =>
    rw [List.cons_append, List.cons_append, run, run]
    cases r.apply t with
    | error e => rfl
    | ok taken =>
      dsimp only
      rw [ih]

theorem run_textLexemes {left right : Bytes} (boundary : ¬ Utf8.InSequence left right)
    (outside : ¬ InReference left right) (r : Reader) (ts : List Token) :
    SameOutcome (r.run ((textLexemes (left ++ right)).map Lexeme.token ++ ts))
      (r.run ((textLexemes left ++ textLexemes right).map Lexeme.token ++ ts)) := by
  by_cases none : left = []
  · subst none
    exact .refl _
  · by_cases none' : right = []
    · subst none'
      rw [List.append_nil, show textLexemes [] = [] from rfl, List.append_nil]
      exact .refl _
    · rw [textLexemes, textLexemes, textLexemes, if_neg none, if_neg none',
        if_neg (List.append_ne_nil_of_left_ne_nil none right)]
      exact (run_split boundary outside r ts).symm

theorem exists_cut_of_edit {part part' : Bytes} (edit : Edit part part') :
    ∃ xs xs', Cut part xs ∧ Cut part' xs' ∧ ∀ (r : Reader) ts,
      SameOutcome (r.run (xs.map Lexeme.token ++ ts)) (r.run (xs'.map Lexeme.token ++ ts)) := by
  cases edit with
  | @ignored left right markup free boundary outside ignored =>
    have freeLeft : ∀ b ∈ left, !isLt b := fun b mem => free b (List.mem_append_left _ mem)
    have freeRight : ∀ b ∈ right, !isLt b := fun b mem => free b (List.mem_append_right _ mem)
    refine ⟨_, _, cut_text free, cut_ignored ignored freeLeft freeRight, fun r ts => ?_⟩
    have same := run_textLexemes boundary outside r ts
    rw [List.map_append, List.append_assoc] at same
    rw [List.map_append, List.map_cons, List.append_assoc, List.cons_append, run_ignored]
    exact same
  | @marked text nonempty plain =>
    refine ⟨_, _, .of_front fun more => front_marked plain _,
      .of_front fun more => front_escaped nonempty _, fun r ts => ?_⟩
    have same : r.apply (.cdata (Utf8.encode text)) =
        r.apply (.text (Utf8.encode (escape text))) := by
      rw [apply, apply, decodeName_encode, decodeText_escape]
    simp only [List.map_cons, List.map_nil, List.singleton_append]
    rw [run, run, same]
    exact .refl _

theorem sameOutcome_of_report {p q : Reader × List Event} (h : reportOf p = reportOf q) :
    SameOutcome p q :=
  ⟨congrArg Report.events h, congrArg (·.fault.isSome) h, congrArg Report.depth h,
    congrArg Report.finished h⟩

theorem SameOutcome.settle {p q : Reader × List Event} (h : SameOutcome p q)
    (limit : p.1.limit = q.1.limit) (left : Bytes) (ending : Ending) :
    SameOutcome (Reader.settle p left ending) (Reader.settle q left ending) := by
  refine ⟨h.events, ?_, h.depth, h.finished⟩
  rw [fault_settle, fault_settle, Option.isSome_or, Option.isSome_or, h.fails, limit]

theorem outcome_of_varies {data data' : Bytes} (varies : Varies data data') (framing : Framing)
    (limit : Nat) : SameOutcome (outcome framing limit data) (outcome framing limit data') := by
  obtain @⟨before, part, part', complete, edit, more⟩ := varies
  obtain ⟨xs, xs', cut, cut', alike⟩ := exists_cut_of_edit edit
  have whole : uncut before = [] := uncut_of_text complete
  rw [outcome_between framing limit whole (cut more), outcome_between framing limit whole (cut' more)]
  refine SameOutcome.settle (.run_append rfl _ (alike _ _)) ?_ _ _
  rw [limit_run, limit_run]

theorem outcome_of_variant {data data' : Bytes} (variant : Relation.EqvGen Varies data data')
    (framing : Framing) (limit : Nat) :
    SameOutcome (outcome framing limit data) (outcome framing limit data') := by
  induction variant with
  | rel data data' varies => exact outcome_of_varies varies framing limit
  | refl data => exact .refl _
  | symm data data' _ ih => exact ih.symm
  | trans data data' data'' _ _ ih ih' => exact ih.trans ih'

/-- Inputs that begin with no byte order mark and differ in what is ignored, and in how their text is
marked, have the same outcome in one push. -/
theorem push_variant {framing : Framing} {limit : Nat} {data data' : Bytes}
    (variant : Relation.EqvGen Varies data data') (mark : ¬ byteOrderMark <+: data)
    (mark' : ¬ byteOrderMark <+: data') (fits : data.length ≤ limit) (fits' : data'.length ≤ limit) :
    SameOutcome ((fresh framing limit).push data) ((fresh framing limit).push data') := by
  have pushed : SameOutcome ((fresh framing limit).push data) (outcome framing limit data) :=
    sameOutcome_of_report (report_eq_outcome mark fits)
  have pushed' : SameOutcome ((fresh framing limit).push data') (outcome framing limit data') :=
    sameOutcome_of_report (report_eq_outcome mark' fits')
  exact (pushed.trans (outcome_of_variant variant framing limit)).trans pushed'.symm

def commented : Bytes := Utf8.encode "<a>x&amp;<!-- or -->y<b/><![CDATA[1<2]]></a>"

def uncommented : Bytes := Utf8.encode "<a>x&amp;y<b/><![CDATA[1<2]]></a>"

def unmarked : Bytes := Utf8.encode "<a>x&amp;y<b/>1&lt;2</a>"

theorem varies_uncommented : Varies uncommented commented := by
  have whole : uncommented = Utf8.encode "<a>" ++ (Utf8.encode "x&amp;" ++ Utf8.encode "y"
      ++ 0x3C :: Utf8.encode "b/><![CDATA[1<2]]></a>") := by decide +kernel
  have whole' : commented = Utf8.encode "<a>" ++ (Utf8.encode "x&amp;" ++ (Utf8.encode "<!-- or -->"
      ++ Utf8.encode "y") ++ 0x3C :: Utf8.encode "b/><![CDATA[1<2]]></a>") := by decide +kernel
  have boundary : ¬ Utf8.InSequence (Utf8.encode "x&amp;") (Utf8.encode "y") :=
    Utf8.not_inSequence (c := 'y') (by decide) _ []
  rw [whole, whole']
  exact .edit (by decide +kernel) (.ignored (by decide +kernel) boundary
    (not_inReference (by decide +kernel) _) (by decide +kernel)) _

theorem varies_unmarked : Varies uncommented unmarked := by
  have whole : uncommented = Utf8.encode "<a>x&amp;y<b/>"
      ++ (Utf8.encode ("<![CDATA[" ++ "1<2" ++ "]]>") ++ 0x3C :: Utf8.encode "/a>") := by
    decide +kernel
  have whole' : unmarked = Utf8.encode "<a>x&amp;y<b/>"
      ++ (Utf8.encode (escape "1<2") ++ 0x3C :: Utf8.encode "/a>") := by decide +kernel
  rw [whole, whole']
  exact .edit (by decide +kernel) (.marked (by decide) (by decide +kernel)) _

theorem push_variant_commented :
    Relation.EqvGen Varies commented unmarked ∧ ¬ byteOrderMark <+: commented
      ∧ ¬ byteOrderMark <+: unmarked ∧ commented.length ≤ 64 ∧ unmarked.length ≤ 64
      ∧ SameOutcome ((fresh .standalone 64).push commented)
        ((fresh .standalone 64).push unmarked) := by
  have variant : Relation.EqvGen Varies commented unmarked :=
    .trans _ _ _ (.symm _ _ (.rel _ _ varies_uncommented)) (.rel _ _ varies_unmarked)
  have mark : ¬ byteOrderMark <+: commented := by decide +kernel
  have mark' : ¬ byteOrderMark <+: unmarked := by decide +kernel
  have fits : commented.length ≤ 64 := by decide +kernel
  have fits' : unmarked.length ≤ 64 := by decide +kernel
  exact ⟨variant, mark, mark', fits, fits', push_variant variant mark mark' fits fits'⟩

end XmppStream.Reader
