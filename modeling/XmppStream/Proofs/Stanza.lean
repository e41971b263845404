import Mathlib.Tactic.SplitIfs
import XmppStream.Stanza

/-! What the kinds of stanzas stand for. -/

namespace XmppStream.Stanza

theorem mem_kindsOf {s : Stanza} {kind : StanzaKind} (known : kind ≠ .unknown) (h : s.kind = kind) :
    (s.name, kind) ∈ kindsOf s.ns := by
  rw [Stanza.kind] at h
  cases found : (kindsOf s.ns).lookup s.name with
  | none =>
    rw [found] at h
    exact absurd h.symm known
  | some kind' =>
    rw [found] at h
    obtain rfl : kind' = kind := h
    obtain ⟨before, later, split, -⟩ := List.lookup_eq_some_iff.1 found
    rw [split]
    exact List.mem_append_right _ List.mem_cons_self

theorem kind_eq_iff {s : Stanza} {kind : StanzaKind} {name ns : String} (known : kind ≠ .unknown)
    (there : (kindsOf ns).lookup name = some kind)
    (only : ∀ entry ∈ kindsOf ns, entry.2 = kind → entry.1 = name)
    (apart : ∀ ns' ≠ ns, ∀ entry ∈ kindsOf ns', entry.2 ≠ kind) :
    s.kind = kind ↔ s.is name ns := by
  rw [Node.is, Bool.and_eq_true, decide_eq_true_iff, decide_eq_true_iff]
  constructor
  · intro h
    have mem := mem_kindsOf known h
    by_cases same : s.ns = ns
    · rw [same] at mem
      exact ⟨only _ mem rfl, same⟩
    · exact absurd rfl (apart s.ns same _ mem)
  · rintro ⟨rfl, rfl⟩
    rw [Stanza.kind, there]
    rfl

theorem kind_streamFeatures {s : Stanza} :
    s.kind = .streamFeatures ↔ s.is "features" Namespace.stream := by
  refine kind_eq_iff nofun (by decide) (by decide) fun ns other => ?_
  unfold kindsOf
  split_ifs <;> decide

theorem kind_proceed {s : Stanza} : s.kind = .proceed ↔ s.is "proceed" Namespace.tls := by
  refine kind_eq_iff nofun (by decide) (by decide) fun ns other => ?_
  unfold kindsOf
  split_ifs <;> decide

theorem kind_tlsFailure {s : Stanza} : s.kind = .tlsFailure ↔ s.is "failure" Namespace.tls := by
  refine kind_eq_iff nofun (by decide) (by decide) fun ns other => ?_
  unfold kindsOf
  split_ifs <;> decide

end XmppStream.Stanza
