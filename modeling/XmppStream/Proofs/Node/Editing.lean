import Mathlib.Data.List.Induction
import XmppStream.Node.Basic
import XmppStream.Proofs.Table

/-! Edits of a node, in any order. Its attributes and its prefixes are tables that tell the edits
made so far: a key has the value put last, unless it was removed since, and the keys stand in the
order in which they were put for good. -/

namespace XmppStream

namespace Table

inductive Edit where
  | put (key value : String)
  | remove (key : String)
deriving DecidableEq, Repr

namespace Edit

def key : Edit → String
  | put key _ | remove key => key

def perform : Edit → Table → Table
  | put key value, t => t.put key value
  | remove key, t => t.remove key

end Edit

def edited (t : Table) (edits : List Edit) : Table := edits.foldl (fun t e => e.perform t) t

def PutLast (key value : String) (edits : List Edit) : Prop :=
  ∃ before after, edits = before ++ .put key value :: after ∧ ∀ e ∈ after, e.key ≠ key

/-- The keys put by edits, each as often as it was put since it was last removed. -/
def standing : List Edit → List String
  | [] => []
  | .put key _ :: later => if .remove key ∈ later then standing later else key :: standing later
  | .remove _ :: later => standing later

theorem edited_concat (t : Table) (edits : List Edit) (e : Edit) :
    t.edited (edits ++ [e]) = e.perform (t.edited edits) := List.foldl_append

theorem nodup_keys_edited {t : Table} (distinct : t.keys.Nodup) (edits : List Edit) :
    (t.edited edits).keys.Nodup := by
  induction edits using List.reverseRecOn with
  | nil => exact distinct
  | append_singleton edits e ih =>
    rw [edited_concat]
    cases e with
    | put key value => exact nodup_keys_put ih key value
    | remove key =>
      rw [Edit.perform, remove_eq_filter ih]
      exact nodup_keys_filter _ ih

theorem standing_concat_put (edits : List Edit) (key value : String) :
    standing (edits ++ [.put key value]) = standing edits ++ [key] := by
  induction edits with
  | nil => rfl
  | cons e edits ih =>
    cases e with
    | remove k => exact ih
    | put k v =>
      have undone : .remove k ∈ edits ++ [.put key value] ↔ .remove k ∈ edits := by simp
      rw [List.cons_append, standing, standing, ih]
      simp only [undone]
      split_ifs
      · rfl
      · rfl

theorem standing_concat_remove (edits : List Edit) (key : String) :
    standing (edits ++ [.remove key]) = (standing edits).filter (· ≠ key) := by
  induction edits with
  | nil => rfl
  | cons e edits ih =>
    cases e with
    | remove k => exact ih
    | put k v =>
      have undone : .remove k ∈ edits ++ [.remove key] ↔ .remove k ∈ edits ∨ k = key := by simp
      rw [List.cons_append, standing, standing, ih]
      simp only [undone]
      by_cases before : .remove k ∈ edits
      · rw [if_pos before, if_pos (.inl before)]
      by_cases same : k = key
      · rw [if_neg before, if_pos (.inr same), List.filter_cons_of_neg (by simpa using same)]
      · rw [if_neg before, if_neg (not_or.2 ⟨before, same⟩),
          List.filter_cons_of_pos (by simpa using same)]

theorem eraseDups_concat (l : List String) (s : String) :
    (l ++ [s]).eraseDups = if s ∈ l then l.eraseDups else l.eraseDups ++ [s] := by
  rw [List.eraseDups_append]
  split_ifs with mem
  · have nothing : [s].removeAll l = [] := by simp [List.removeAll, mem]
    rw [nothing, List.eraseDups_nil, List.append_nil]
  · have all : [s].removeAll l = [s] := by simp [List.removeAll, mem]
    rw [all]
    rfl

theorem eraseDups_filter (l : List String) (p : String → Bool) :
    (l.filter p).eraseDups = l.eraseDups.filter p := by
  induction l using List.reverseRecOn with
  | nil => rfl
  | append_singleton l s ih =>
    rw [List.filter_append, eraseDups_concat]
    by_cases holds : p s
    · rw [List.filter_cons_of_pos holds, List.filter_nil, eraseDups_concat, ih]
      by_cases mem : s ∈ l
      · rw [if_pos mem, if_pos (List.mem_filter.2 ⟨mem, holds⟩)]
      · rw [if_neg mem, if_neg fun h => mem (List.mem_filter.1 h).1, List.filter_append,
          List.filter_cons_of_pos holds, List.filter_nil]
    · rw [List.filter_cons_of_neg holds, List.filter_nil, List.append_nil, ih]
      split_ifs
      · rfl
      · rw [List.filter_append, List.filter_cons_of_neg holds, List.filter_nil, List.append_nil]

theorem keys_edited (edits : List Edit) : keys (edited [] edits) = (standing edits).eraseDups := by
  -- Backwards, since an edit acts on the table that those before it left.
  induction edits using List.reverseRecOn with
  | nil => rfl
  | append_singleton edits e ih =>
    have distinct : (edited [] edits).keys.Nodup :=
      nodup_keys_edited (t := []) List.nodup_nil edits
    rw [edited_concat]
    cases e with
    | put key value =>
      rw [Edit.perform, keys_put, standing_concat_put, eraseDups_concat, ih]
      simp only [List.mem_eraseDups]
    | remove key =>
      rw [Edit.perform, remove_eq_filter distinct, standing_concat_remove, eraseDups_filter, ← ih]
      exact keys_filter _ (· ≠ key)

example : edited [] [.put "a" "1", .put "b" "2", .remove "a", .put "a" "3", .put "b" "4"] =
    [("b", "4"), ("a", "3")] := by decide

theorem not_putLast_nil (key value : String) : ¬ PutLast key value [] := by
  rintro ⟨before, after, nothing, -⟩
  simp at nothing

theorem putLast_concat (key value : String) (edits : List Edit) (e : Edit) :
    PutLast key value (edits ++ [e]) ↔
      e = .put key value ∨ e.key ≠ key ∧ PutLast key value edits := by
  constructor
  · rintro ⟨before, after, whole, others⟩
    rcases List.eq_nil_or_concat after with rfl | ⟨after, last, rfl⟩
    · exact .inl (List.singleton_inj.1 (List.append_inj' whole rfl).2)
    · rw [List.concat_eq_append] at whole others
      rw [← List.cons_append, ← List.append_assoc] at whole
      obtain ⟨rfl, same⟩ := List.append_inj' whole rfl
      obtain rfl := List.singleton_inj.1 same
      rw [List.forall_mem_append, List.forall_mem_singleton] at others
      exact .inr ⟨others.2, before, after, rfl, others.1⟩
  · rintro (rfl | ⟨other, before, after, rfl, others⟩)
    · exact ⟨edits, [], rfl, nofun⟩
    · refine ⟨before, after ++ [e], by simp, ?_⟩
      rw [List.forall_mem_append, List.forall_mem_singleton]
      exact ⟨others, other⟩

theorem get?_edited (key value : String) (edits : List Edit) :
    get? (edited [] edits) key = some value ↔ PutLast key value edits := by
  -- On the edits from the last one back.
  induction edits using List.reverseRecOn with
  | nil => exact ⟨nofun, fun h => absurd h (not_putLast_nil key value)⟩
  | append_singleton edits e ih =>
    rw [edited_concat, putLast_concat, ← ih]
    cases e with
    | put k v =>
      rw [Edit.perform, get?_put]
      split_ifs with same
      · simp [Edit.key, same, eq_comm]
      · simp [Edit.key, Ne.symm same]
    | remove k =>
      rw [Edit.perform, get?_remove (nodup_keys_edited (t := []) List.nodup_nil edits)]
      split_ifs with same
      · simp [Edit.key, same]
      · simp [Edit.key, Ne.symm same]

end Table

namespace Node

inductive Edit where
  | setAttr (key value : String)
  | removeAttr (key : String)
  | declare (label ns : String)
deriving DecidableEq, Repr

namespace Edit

def perform : Edit → Node → Node
  | setAttr key value, n => n.setAttr key value
  | removeAttr key, n => (n.takeAttr key).2
  | declare label ns, n => n.declare label ns

def onAttrs? : Edit → Option Table.Edit
  | setAttr key value => some (.put key value)
  | removeAttr key => some (.remove key)
  | declare _ _ => none

def onPrefixes? : Edit → Option Table.Edit
  | declare label ns => some (.put label ns)
  | setAttr _ _ | removeAttr _ => none

def leavesKey : Edit → String → Bool
  | setAttr key _, other | removeAttr key, other => key ≠ other
  | declare _ _, _ => true

def leavesPrefix : Edit → String → Bool
  | declare label _, other => label ≠ other
  | setAttr _ _, _ | removeAttr _, _ => true

/-- The edit makes a node into another, and only its own key or prefix is touched. -/
structure Spares (e : Edit) (n n' : Node) : Prop where
  attrs : n'.attrs.filter (e.leavesKey ·.1) = n.attrs.filter (e.leavesKey ·.1)
  prefixes : n'.prefixes.filter (e.leavesPrefix ·.1) = n.prefixes.filter (e.leavesPrefix ·.1)
  attr : ∀ key, e.leavesKey key → n'.attr key = n.attr key
  bound : ∀ label, e.leavesPrefix label → n'.prefixes.get? label = n.prefixes.get? label
  others : n' = { n with attrs := n'.attrs, prefixes := n'.prefixes }

end Edit

def edited (n : Node) (edits : List Edit) : Node := edits.foldl (fun n e => e.perform n) n

theorem edited_eq (n : Node) (edits : List Edit) :
    n.edited edits = { n with
      attrs := n.attrs.edited (edits.filterMap Edit.onAttrs?)
      prefixes := n.prefixes.edited (edits.filterMap Edit.onPrefixes?) } := by
  induction edits generalizing n with
  | nil => cases n; rfl
  | cons e edits ih =>
    cases e with
    | setAttr key value => exact ih _
    | removeAttr key => exact ih _
    | declare label ns => exact ih _

theorem spares_perform (e : Edit) (n : Node) : e.Spares n (e.perform n) := by
  have attrs : (e.perform n).attrs.filter (e.leavesKey ·.1) = n.attrs.filter (e.leavesKey ·.1) := by
    cases e with
    | setAttr key value => exact Table.filter_put n.attrs value (by simp [Edit.leavesKey])
    | removeAttr key => exact Table.filter_remove n.attrs (by simp [Edit.leavesKey])
    | declare label ns => rfl
  have prefixes : (e.perform n).prefixes.filter (e.leavesPrefix ·.1) =
      n.prefixes.filter (e.leavesPrefix ·.1) := by
    cases e with
    | setAttr key value => rfl
    | removeAttr key => rfl
    | declare label ns => exact Table.filter_put n.prefixes ns (by simp [Edit.leavesPrefix])
  refine ⟨attrs, prefixes, fun key => Table.get?_of_filter attrs,
    fun label => Table.get?_of_filter prefixes, ?_⟩
  cases n
  cases e <;> rfl

/-- Whatever edits made a node, no key and no prefix stands in it twice. Each key has the value that
its last edit put and each prefix the last namespace it was bound to; they stand in the order in
which they were put first since they were last removed. A value taken out is the one last put, its
key is absent then and the rest stays in order. And an edit changes nothing but its own key or
prefix. -/
theorem tables_tell_edits (name ns : String) (edits : List Edit) :
    let n := edited { name, ns } edits
    let onAttrs := edits.filterMap Edit.onAttrs?
    let onPrefixes := edits.filterMap Edit.onPrefixes?
    n.attrs.keys.Nodup ∧ n.prefixes.keys.Nodup
      ∧ (∀ key value, n.attr key = some value ↔ Table.PutLast key value onAttrs)
      ∧ n.attrs.keys = (Table.standing onAttrs).eraseDups
      ∧ (∀ label ns, n.prefixes.get? label = some ns ↔ Table.PutLast label ns onPrefixes)
      ∧ n.prefixes.keys = (Table.standing onPrefixes).eraseDups
      ∧ (∀ key, let taken := n.takeAttr key
        (∀ value, taken.1 = some value ↔ Table.PutLast key value onAttrs)
          ∧ taken.2.attr key = none ∧ taken.2.attrs = n.attrs.filter (·.1 ≠ key))
      ∧ ∀ e : Edit, e.Spares n (e.perform n) := by
  intro n onAttrs onPrefixes
  have attrs : n.attrs = Table.edited [] onAttrs := by rw [show n = _ from edited_eq _ edits]
  have prefixes : n.prefixes = Table.edited [] onPrefixes := by
    rw [show n = _ from edited_eq _ edits]
  have distinct : n.attrs.keys.Nodup := by
    rw [attrs]
    exact Table.nodup_keys_edited (t := []) List.nodup_nil onAttrs
  have values (key value : String) : n.attr key = some value ↔ Table.PutLast key value onAttrs := by
    rw [attr, attrs]
    exact Table.get?_edited key value onAttrs
  refine ⟨distinct, ?_, values, ?_, ?_, ?_, fun key => ⟨values key, ?_, ?_⟩,
    fun e => spares_perform e n⟩
  · rw [prefixes]
    exact Table.nodup_keys_edited (t := []) List.nodup_nil onPrefixes
  · rw [attrs]
    exact Table.keys_edited onAttrs
  · intro label ns
    rw [prefixes]
    exact Table.get?_edited label ns onPrefixes
  · rw [prefixes]
    exact Table.keys_edited onPrefixes
  · exact (Table.get?_remove distinct key key).trans (if_pos rfl)
  · exact Table.remove_eq_filter distinct key

end Node

end XmppStream
