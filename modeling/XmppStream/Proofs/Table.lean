import Mathlib.Tactic.SplitIfs
import XmppStream.Text.Basic

/-! Tables: looking up a key, and building a table whose keys are distinct. -/

namespace XmppStream.Table

@[simp]
theorem get?_nil (key : String) : get? [] key = none := rfl

theorem get?_cons (k v key : String) (t : Table) :
    get? ((k, v) :: t) key = if key = k then some v else t.get? key := by
  rw [get?, List.lookup_cons]
  split_ifs with h
  · rw [beq_iff_eq.2 h]
  · rw [beq_false_of_ne h]
    rfl

theorem get?_append (t u : Table) (key : String) :
    get? (t ++ u) key = (t.get? key).or (u.get? key) := List.lookup_append

@[simp]
theorem keys_cons (k v : String) (t : Table) : keys ((k, v) :: t) = k :: t.keys := rfl

theorem get?_eq_none {t : Table} {key : String} (h : key ∉ t.keys) : t.get? key = none := by
  rw [get?, List.lookup_eq_none_iff]
  intro p hp
  apply bne_iff_ne.2
  rintro rfl
  exact h (List.mem_map_of_mem hp)

theorem get?_put (t : Table) (k v key : String) :
    (t.put k v).get? key = if key = k then some v else t.get? key := by
  induction t with
  | nil => rw [put, get?_cons]
  | cons entry t ih =>
    obtain ⟨k', v'⟩ := entry
    rw [put]
    by_cases same : k' = k
    · subst same
      rw [if_pos rfl, get?_cons, get?_cons]
      split_ifs <;> rfl
    · rw [if_neg same, get?_cons, get?_cons, ih]
      split_ifs with first second
      · exact absurd (first.symm.trans second) same
      · rfl
      · rfl
      · rfl

theorem put_of_new {t : Table} {key : String} (value : String) (h : key ∉ t.keys) :
    put key value t = t ++ [(key, value)] := by
  induction t with
  | nil => rfl
  | cons entry t ih =>
    obtain ⟨k, v⟩ := entry
    rw [keys_cons, List.mem_cons, not_or] at h
    rw [put, if_neg (Ne.symm h.1), ih h.2, List.cons_append]

theorem keys_put_of_known {t : Table} {key : String} (value : String) (h : key ∈ t.keys) :
    keys (put key value t) = t.keys := by
  induction t with
  | nil => cases h
  | cons entry t ih =>
    obtain ⟨k, v⟩ := entry
    rw [put]
    split_ifs with same
    · rfl
    · have later : key ∈ keys t := (List.mem_cons.1 h).resolve_left (Ne.symm same)
      rw [keys_cons, ih later, keys_cons]

theorem keys_put (t : Table) (key value : String) :
    (t.put key value).keys = if key ∈ t.keys then t.keys else t.keys ++ [key] := by
  split_ifs with known
  · exact keys_put_of_known value known
  · rw [put_of_new value known]
    exact List.map_append

theorem nodup_keys_put {t : Table} (distinct : t.keys.Nodup) (key value : String) :
    (t.put key value).keys.Nodup := by
  rw [keys_put]
  split_ifs with known
  · exact distinct
  · rw [List.nodup_append]
    refine ⟨distinct, List.nodup_cons.2 ⟨List.not_mem_nil, List.nodup_nil⟩, ?_⟩
    intro k mem k' mem'
    rintro rfl
    exact known (List.mem_singleton.1 mem' ▸ mem)

theorem remove_eq_filter {t : Table} (distinct : t.keys.Nodup) (key : String) :
    t.remove key = t.filter (·.1 ≠ key) := by
  induction t with
  | nil => rfl
  | cons entry t ih =>
    obtain ⟨k, v⟩ := entry
    rw [keys_cons, List.nodup_cons] at distinct
    rw [remove]
    by_cases same : k = key
    · subst same
      have others : ∀ entry ∈ t, decide (entry.1 ≠ k) = true := by
        intro entry mem
        rw [decide_eq_true_eq]
        rintro rfl
        exact distinct.1 (List.mem_map_of_mem mem)
      rw [if_pos rfl, List.filter_cons_of_neg (by simp), List.filter_eq_self.2 others]
    · rw [if_neg same, List.filter_cons_of_pos (by simpa using same), ih distinct.2]

theorem filter_put (t : Table) {key : String} (value : String) {p : String → Bool}
    (other : ¬ p key) : (t.put key value).filter (p ·.1) = t.filter (p ·.1) := by
  induction t with
  | nil => exact List.filter_cons_of_neg other
  | cons entry t ih =>
    obtain ⟨k, v⟩ := entry
    rw [put]
    split_ifs with same
    · subst same
      rw [List.filter_cons, List.filter_cons, if_neg other, if_neg other]
    · rw [List.filter_cons, List.filter_cons, ih]

theorem filter_remove (t : Table) {key : String} {p : String → Bool} (other : ¬ p key) :
    (t.remove key).filter (p ·.1) = t.filter (p ·.1) := by
  induction t with
  | nil => rfl
  | cons entry t ih =>
    obtain ⟨k, v⟩ := entry
    rw [remove]
    split_ifs with same
    · subst same
      rw [List.filter_cons, if_neg other]
    · rw [List.filter_cons, List.filter_cons, ih]

theorem foldl_put (t u : Table) (h : (t ++ u).keys.Nodup) :
    u.foldl (fun t (key, value) => t.put key value) t = t ++ u := by
  induction u generalizing t with
  | nil => rw [List.foldl_nil, List.append_nil]
  | cons entry u ih =>
    obtain ⟨k, v⟩ := entry
    have new : k ∉ t.keys := by
      intro hk
      rw [keys, List.map_append, List.nodup_append] at h
      exact h.2.2 k hk k (List.mem_cons_self ..) rfl
    rw [List.foldl_cons]
    dsimp only
    rw [put_of_new v new, ih, List.append_assoc, List.singleton_append]
    rwa [List.append_assoc, List.singleton_append]

theorem read_foldl {σ : Type} {f : σ → String × String → σ} {read : σ → Option String}
    {key : String} (set : ∀ s k v, read (f s (k, v)) = if k = key then some v else read s)
    {t : Table} (distinct : t.keys.Nodup) (s : σ) :
    read (t.foldl f s) = (t.get? key).or (read s) := by
  induction t generalizing s with
  | nil => rfl
  | cons entry t ih =>
    obtain ⟨k, v⟩ := entry
    rw [keys_cons, List.nodup_cons] at distinct
    rw [List.foldl_cons, ih distinct.2, set, get?_cons]
    by_cases same : key = k
    · subst same
      rw [get?_eq_none distinct.1, if_pos rfl, if_pos rfl]
      rfl
    · rw [if_neg same, if_neg (Ne.symm same)]

theorem get?_filter {t : Table} {p : String × String → Bool} {key : String}
    (h : ∀ value, p (key, value)) : get? (t.filter p) key = t.get? key := by
  induction t with
  | nil => rfl
  | cons entry t ih =>
    obtain ⟨k, v⟩ := entry
    rw [List.filter_cons, get?_cons]
    split_ifs with hp hk hk
    · rw [get?_cons, if_pos hk]
    · rw [get?_cons, if_neg hk, ih]
    · subst hk
      exact absurd (h v) hp
    · exact ih

theorem get?_of_filter {t u : Table} {p : String → Bool}
    (alike : t.filter (p ·.1) = u.filter (p ·.1)) {key : String} (h : p key) :
    t.get? key = u.get? key := by
  have kept (t : Table) : get? (t.filter (p ·.1)) key = t.get? key := get?_filter fun _ => h
  rw [← kept t, alike, kept u]

theorem keys_filter (t : Table) (p : String → Bool) :
    keys (t.filter (p ·.1)) = t.keys.filter p := (List.filter_map ..).symm

theorem nodup_keys_filter {t : Table} (p : String × String → Bool) (h : t.keys.Nodup) :
    (keys (t.filter p)).Nodup := List.Nodup.sublist (List.filter_sublist.map _) h

theorem get?_remove {t : Table} (distinct : t.keys.Nodup) (k key : String) :
    (t.remove k).get? key = if key = k then none else t.get? key := by
  rw [remove_eq_filter distinct]
  split_ifs with same
  · subst same
    apply get?_eq_none
    rw [keys_filter t (· ≠ key), List.mem_filter, decide_eq_true_eq]
    exact fun h => h.2 rfl
  · exact get?_filter fun _ => decide_eq_true same

@[simp]
theorem keys_append (t u : Table) : keys (t ++ u) = t.keys ++ u.keys := List.map_append

theorem get?_of_mem {t : Table} (h : t.keys.Nodup) {entry : String × String} (mem : entry ∈ t) :
    t.get? entry.1 = some entry.2 := by
  induction t with
  | nil => cases mem
  | cons first t ih =>
    obtain ⟨k, v⟩ := first
    rw [keys_cons, List.nodup_cons] at h
    rcases List.mem_cons.1 mem with rfl | later
    · rw [get?_cons, if_pos rfl]
    · have other : entry.1 ≠ k := by
        intro same
        exact h.1 (same ▸ List.mem_map_of_mem later)
      rw [get?_cons, if_neg other, ih h.2 later]

theorem filterMap_keys {t : Table} {f : String → Option String}
    (h : ∀ entry ∈ t, f entry.1 = some entry.2) :
    t.keys.filterMap (fun key => (f key).map fun value => (key, value)) = t := by
  induction t with
  | nil => rfl
  | cons entry t ih =>
    rw [List.forall_mem_cons] at h
    rw [keys, List.map_cons, List.filterMap_cons_some (by rw [h.1]; rfl), ← keys, ih h.2]

end XmppStream.Table
