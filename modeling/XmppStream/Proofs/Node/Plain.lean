import XmppStream.Proofs.Reader.Written

/-! Legible nodes: those that come back from their written form as they were. Their names stand in
a tag as they are, and they declare what their qualified keys rely on. Plain nodes, whose names and
keys have none of the marks of tags, are legible. -/

namespace XmppStream
open Markup Reference

/-- A name without colon, blanks and marks, which begins neither a declaration nor an instruction. -/
structure PlainName (s : String) : Prop extends IsTagName s where
  noColon : ':' ∉ s.toList

instance (s : String) : Decidable (PlainName s) :=
  decidable_of_iff (IsTagName s ∧ ':' ∉ s.toList)
    ⟨fun h => ⟨h.1, h.2⟩, fun h => ⟨h.toIsTagName, h.noColon⟩⟩

inductive PlainKey : String → Prop where
  | name {key : String} (plain : PlainName key) (undeclaring : key ≠ "xmlns") : PlainKey key
  | qualified {label localName : String} (labelPlain : PlainName label)
      (localPlain : PlainName localName) (undeclaring : label ≠ "xmlns")
      (notLang : label ++ ":" ++ localName ≠ "xml:lang") : PlainKey (label ++ ":" ++ localName)

structure PlainTag (n : Node) : Prop where
  name : PlainName n.name
  keys : ∀ key ∈ n.attrs.keys, PlainKey key
  distinct : n.attrs.keys.Nodup
  prefixes : n.prefixes.keys = labels n.attrs
  text : ∀ text, n.text = some text → ¬ text.toList.all isAsciiBlank

inductive Plain : Node → Prop where
  | mk {n : Node} (tag : PlainTag n) (children : ∀ child ∈ n.children, Plain child) : Plain n

/-- The reader finds the node itself in its written start tag. -/
structure Legible (n : Node) : Prop where
  name : ReadsAsName n.name
  noColon : ':' ∉ n.name.toList
  keys : ∀ key ∈ n.attrs.keys, ReadsAsKey key
  own : ∀ key ∈ n.attrs.keys, isDeclaration key = false ∧ key ≠ "xml:lang"
  declarations : ∀ label ∈ n.prefixes.keys, ReadsAsKey ("xmlns:" ++ label)
  distinct : n.attrs.keys.Nodup
  prefixes : n.prefixes.keys = labels n.attrs
  text : ∀ text, n.text = some text → ¬ text.toList.all isAsciiBlank

inductive Node.All (p : Node → Prop) : Node → Prop where
  | mk {n : Node} (here : p n) (children : ∀ child ∈ n.children, All p child) : All p n

namespace Node.All

variable {p : Node → Prop} {n : Node}

theorem here (h : n.All p) : p n := by
  cases h with
  | mk here children => exact here

theorem children (h : n.All p) : ∀ child ∈ n.children, child.All p := by
  cases h with
  | mk here children => exact children

end Node.All

namespace Reference

theorem splitColon_none {cs : List Char} (h : ':' ∉ cs) : splitColon cs = none := by
  induction cs with
  | nil => rfl
  | cons c cs ih =>
    rw [List.mem_cons, not_or] at h
    rw [splitColon, if_neg (Ne.symm h.1), ih h.2]
    rfl

theorem splitColon_append {label : List Char} (h : ':' ∉ label) (localPart : List Char) :
    splitColon (label ++ ':' :: localPart) = some (label, localPart) := by
  induction label with
  | nil => rw [List.nil_append, splitColon, if_pos rfl]
  | cons c label ih =>
    rw [List.mem_cons, not_or] at h
    rw [List.cons_append, splitColon, if_neg (Ne.symm h.1), ih h.2]
    rfl

theorem label?_qualified {label : String} (h : ':' ∉ label.toList) (localName : String) :
    label? (label ++ ":" ++ localName) = some label := by
  have chars : (label ++ ":" ++ localName).toList = label.toList ++ ':' :: localName.toList := by
    rw [String.toList_append, String.toList_append, List.append_assoc]
    rfl
  unfold label?
  rw [chars, splitColon_append h, Option.map_some, String.ofList_toList]

theorem label?_plain {name : String} (h : ':' ∉ name.toList) : label? name = none := by
  unfold label?
  rw [splitColon_none h]
  rfl

theorem localPart_plain {name : String} (h : ':' ∉ name.toList) : localPart name = name := by
  unfold localPart
  rw [splitColon_none h]

theorem label?_of_isDeclaration {key : String} (h : isDeclaration key) :
    key = "xmlns" ∨ label? key = some "xmlns" := by
  rcases isDeclaration_iff.1 h with h | h
  · exact .inl h
  · right
    obtain ⟨rest, split⟩ := List.isPrefixOf_iff_prefix.1 h
    have qualified : key = "xmlns" ++ ":" ++ String.ofList rest := by
      rw [← String.toList_inj, ← split, String.toList_append, String.toList_ofList (l := rest)]
      rfl
    rw [qualified]
    exact label?_qualified (by decide) _

end Reference

namespace PlainKey

variable {key : String}

theorem word (plain : PlainKey key) : IsWord key := by
  cases plain with
  | name plain _ => exact plain.toIsWord
  | qualified labelPlain localPlain _ _ =>
    have colon : IsWord ":" := by decide
    exact (labelPlain.toIsWord.append colon).append localPlain.toIsWord

theorem not_isDeclaration (plain : PlainKey key) : isDeclaration key = false := by
  rw [← Bool.not_eq_true]
  intro h
  cases plain with
  | name plain undeclaring =>
    rcases label?_of_isDeclaration h with h | h
    · exact undeclaring h
    · rw [label?_plain plain.noColon] at h
      cases h
  | @qualified label localName labelPlain _ undeclaring _ =>
    rcases label?_of_isDeclaration h with h | h
    · have chars := congrArg (fun s => ':' ∈ s.toList) h
      simp at chars
    · rw [label?_qualified labelPlain.noColon] at h
      exact undeclaring (Option.some.inj h)

theorem ne_lang (plain : PlainKey key) : key ≠ "xml:lang" := by
  cases plain with
  | name plain _ =>
    rintro rfl
    exact plain.noColon (by decide)
  | qualified _ _ _ notLang => exact notLang

theorem label_word (plain : PlainKey key) {label : String} (h : label? key = some label) :
    IsWord label := by
  cases plain with
  | name plain _ =>
    rw [label?_plain plain.noColon] at h
    cases h
  | qualified labelPlain _ _ _ =>
    rw [label?_qualified labelPlain.noColon] at h
    cases h
    exact labelPlain.toIsWord

end PlainKey

namespace Node

def defaultAttr (around : Option String) (ns : String) : Table :=
  if declaresNs around ns then [("xmlns", ns)] else []

def prefixAttrs (prefixes : Table) : Table :=
  prefixes.map fun (label, ns) => ("xmlns:" ++ label, ns)

def langAttr (lang : Option String) : Table := lang.toList.map fun lang => ("xml:lang", lang)

def declared (around : Option String) (n : Node) : Table :=
  defaultAttr around n.ns ++ prefixAttrs n.prefixes ++ n.attrs ++ langAttr n.lang

def bare (n : Node) : Node := { n with text := none, children := [] }

theorem tag_eq (around : Option String) (n : Node) :
    n.tag around = "<" ++ written n.name (n.declared around) := by
  have one (key value : String) : writeAttrs [(key, value)] = writeAttr key value := by
    rw [writeAttrs_cons]
    exact String.append_empty
  unfold tag declared defaultAttr prefixAttrs langAttr written
  simp only [writeAttrs_append, String.append_assoc]
  congr 3
  · split_ifs
    · exact (one _ _).symm
    · rfl
  · congr 2
    cases n.lang with
    | none => rfl
    | some lang => exact (one _ _).symm

end Node

namespace Reference

theorem isDeclaration_labelled (label : String) : isDeclaration ("xmlns:" ++ label) := by
  rw [isDeclaration_iff, String.toList_append, List.isPrefixOf_iff_prefix]
  exact .inr (List.prefix_append _ _)

theorem prefix_ne_xmlns (label : String) : "xmlns:" ++ label ≠ "xmlns" := by
  intro h
  have length := congrArg (fun s => s.toList.length) h
  simp only [String.toList_append, List.length_append] at length
  have long : "xmlns:".toList.length = 6 := by decide
  have short : "xmlns".toList.length = 5 := by decide
  omega

theorem prefix_ne_lang (label : String) : "xmlns:" ++ label ≠ "xml:lang" := by
  intro h
  have declares := isDeclaration_labelled label
  rw [h] at declares
  revert declares
  decide

theorem prefix_injective {label label' : String} (h : "xmlns:" ++ label = "xmlns:" ++ label') :
    label = label' := by
  have chars := congrArg String.toList h
  rw [String.toList_append, String.toList_append] at chars
  exact String.toList_inj.1 (List.append_cancel_left chars)

theorem get?_prefixAttrs (prefixes : Table) (label : String) :
    (Node.prefixAttrs prefixes).get? ("xmlns:" ++ label) = prefixes.get? label := by
  unfold Node.prefixAttrs
  induction prefixes with
  | nil => rfl
  | cons entry prefixes ih =>
    obtain ⟨k, v⟩ := entry
    rw [List.map_cons, Table.get?_cons, Table.get?_cons, ih]
    by_cases same : label = k
    · rw [if_pos same, if_pos (congrArg _ same)]
    · rw [if_neg same, if_neg fun h => same (prefix_injective h)]

theorem get?_prefixAttrs_eq_none (prefixes : Table) {key : String}
    (h : ∀ label, "xmlns:" ++ label ≠ key) : (Node.prefixAttrs prefixes).get? key = none := by
  apply Table.get?_eq_none
  unfold Table.keys Node.prefixAttrs
  rw [List.map_map]
  intro mem
  obtain ⟨entry, -, same⟩ := List.mem_map.1 mem
  exact h entry.1 same

theorem get?_defaultAttr_eq_none (around : Option String) (ns : String) {key : String}
    (h : key ≠ "xmlns") :
    (Node.defaultAttr around ns).get? key = none := by
  unfold Node.defaultAttr
  split_ifs
  · rw [Table.get?_cons, if_neg h, Table.get?_nil]
  · rfl

theorem get?_langAttr_eq_none (lang : Option String) {key : String} (h : key ≠ "xml:lang") :
    (Node.langAttr lang).get? key = none := by
  unfold Node.langAttr
  cases lang with
  | none => rfl
  | some lang => rw [Option.toList_some, List.map_singleton, Table.get?_cons, if_neg h, Table.get?_nil]

theorem nodup_eraseDups (l : List String) : l.eraseDups.Nodup := by
  induction hn : l.length using Nat.strongRecOn generalizing l with
  | ind n ih =>
    cases l with
    | nil => exact List.nodup_nil
    | cons a l =>
      rw [List.eraseDups_cons, List.nodup_cons]
      have shorter := List.length_filter_le (fun b => !b == a) l
      rw [List.length_cons] at hn
      refine ⟨?_, ih _ (by omega) _ rfl⟩
      rw [List.mem_eraseDups, List.mem_filter]
      simp

theorem mem_labels {attrs : Table} {label : String} (h : label ∈ labels attrs) :
    label ≠ "xml" ∧ ∃ key ∈ attrs.keys, label? key = some label := by
  unfold labels uses at h
  rw [List.mem_eraseDups, List.mem_filter, decide_eq_true_eq, List.mem_filterMap] at h
  obtain ⟨⟨entry, mem, use⟩, other⟩ := h
  exact ⟨other, entry.1, List.mem_map_of_mem mem, use⟩

end Reference

namespace PlainTag

variable {n : Node} (plain : PlainTag n)
include plain

theorem label_word {label : String} (h : label ∈ n.prefixes.keys) : IsWord label := by
  rw [plain.prefixes] at h
  obtain ⟨-, key, mem, use⟩ := mem_labels h
  exact (plain.keys key mem).label_word use

theorem legible : Legible n where
  name := plain.name.readsAsName
  noColon := plain.name.noColon
  keys key mem := (plain.keys key mem).word.readsAsKey
  own key mem := ⟨(plain.keys key mem).not_isDeclaration, (plain.keys key mem).ne_lang⟩
  declarations label mem :=
    have declares : IsWord "xmlns:" := by decide
    (declares.append (plain.label_word mem)).readsAsKey
  distinct := plain.distinct
  prefixes := plain.prefixes
  text := plain.text

end PlainTag

theorem Plain.legible {n : Node} (plain : Plain n) : n.All Legible := by
  induction plain with
  | mk tag _ ih => exact .mk tag.legible ih

structure Unqualified (n : Node) : Prop where
  name : PlainName n.name
  keys : ∀ key ∈ n.attrs.keys, PlainName key ∧ key ≠ "xmlns"
  distinct : n.attrs.keys.Nodup
  prefixes : n.prefixes = []
  text : ∀ text ∈ n.text, ¬ text.toList.all isAsciiBlank

instance (n : Node) : Decidable (Unqualified n) :=
  decidable_of_iff (PlainName n.name ∧ (∀ key ∈ n.attrs.keys, PlainName key ∧ key ≠ "xmlns")
      ∧ n.attrs.keys.Nodup ∧ n.prefixes = [] ∧ ∀ text ∈ n.text, ¬ text.toList.all isAsciiBlank)
    ⟨fun ⟨name, keys, distinct, prefixes, text⟩ => ⟨name, keys, distinct, prefixes, text⟩,
      fun h => ⟨h.name, h.keys, h.distinct, h.prefixes, h.text⟩⟩

theorem Unqualified.plainTag {n : Node} (h : Unqualified n) : PlainTag n where
  name := h.name
  keys key mem := .name (h.keys key mem).1 (h.keys key mem).2
  distinct := h.distinct
  prefixes := by
    have unused : uses n.attrs = [] := by
      apply List.filterMap_eq_nil_iff.2
      intro entry mem
      exact label?_plain (h.keys entry.1 (List.mem_map_of_mem mem)).1.noColon
    rw [h.prefixes, labels, unused]
    rfl
  text := h.text

theorem Plain.of_unqualified {n : Node} (h : n.All Unqualified) : Plain n := by
  induction h with
  | mk here _ ih => exact .mk here.plainTag ih

namespace Legible

variable {n : Node}

theorem mem_keys_defaultAttr {around : Option String} {ns key : String}
    (h : key ∈ (Node.defaultAttr around ns).keys) : key = "xmlns" := by
  unfold Node.defaultAttr at h
  split_ifs at h
  · exact List.mem_singleton.1 h
  · cases h

theorem keys_prefixAttrs (prefixes : Table) :
    (Node.prefixAttrs prefixes).keys = prefixes.keys.map ("xmlns:" ++ ·) := by
  unfold Node.prefixAttrs Table.keys
  rw [List.map_map, List.map_map]
  rfl

theorem mem_keys_langAttr {lang : Option String} {key : String}
    (h : key ∈ (Node.langAttr lang).keys) : key = "xml:lang" := by
  unfold Node.langAttr at h
  cases lang with
  | none => cases h
  | some lang => exact List.mem_singleton.1 h

theorem keys_declared (around : Option String) (n : Node) :
    (n.declared around).keys =
      (Node.defaultAttr around n.ns).keys ++ n.prefixes.keys.map ("xmlns:" ++ ·) ++ n.attrs.keys
        ++ (Node.langAttr n.lang).keys := by
  unfold Node.declared
  rw [Table.keys_append, Table.keys_append, Table.keys_append, keys_prefixAttrs]

variable (legible : Legible n) (around : Option String)
include legible

theorem attrs_get? {key : String} (h : isDeclaration key ∨ key = "xml:lang") :
    n.attrs.get? key = none := by
  apply Table.get?_eq_none
  intro mem
  rcases h with h | h
  · rw [(legible.own key mem).1] at h
    cases h
  · exact (legible.own key mem).2 h

theorem areKeys : ∀ key ∈ (n.declared around).keys, ReadsAsKey key := by
  intro key h
  simp only [keys_declared, List.mem_append] at h
  rcases h with ((h | h) | h) | h
  · have word : IsWord "xmlns" := by decide
    rw [mem_keys_defaultAttr h]
    exact word.readsAsKey
  · obtain ⟨label, mem, rfl⟩ := List.mem_map.1 h
    exact legible.declarations label mem
  · exact legible.keys key h
  · have word : IsWord "xml:lang" := by decide
    rw [mem_keys_langAttr h]
    exact word.readsAsKey

theorem distinct_declared : (n.declared around).keys.Nodup := by
  have labels_nodup : (n.prefixes.keys.map ("xmlns:" ++ ·)).Nodup := by
    rw [legible.prefixes]
    exact List.pairwise_map.2
      ((nodup_eraseDups _).imp fun different same => different (prefix_injective same))
  have default_nodup : (Node.defaultAttr around n.ns).keys.Nodup := by
    unfold Node.defaultAttr
    split_ifs
    · exact List.pairwise_singleton _ _
    · exact List.nodup_nil
  have lang_nodup : (Node.langAttr n.lang).keys.Nodup := by
    unfold Node.langAttr
    cases n.lang with
    | none => exact List.nodup_nil
    | some lang => exact List.pairwise_singleton _ _
  -- The parts have no key in common: plain keys declare nothing and are not the language.
  rw [keys_declared, List.nodup_append, List.nodup_append, List.nodup_append]
  refine ⟨⟨⟨default_nodup, labels_nodup, ?_⟩, legible.distinct, ?_⟩, lang_nodup, ?_⟩
  · intro key hk key' hk' same
    obtain ⟨label, -, rfl⟩ := List.mem_map.1 hk'
    exact prefix_ne_xmlns label (same.symm.trans (mem_keys_defaultAttr hk))
  · rintro key hk key' hk' rfl
    have undeclaring := (legible.own key hk').1
    rcases List.mem_append.1 hk with h | h
    · rw [mem_keys_defaultAttr h] at undeclaring
      exact absurd undeclaring (by decide)
    · obtain ⟨label, -, rfl⟩ := List.mem_map.1 h
      rw [isDeclaration_labelled] at undeclaring
      cases undeclaring
  · rintro key hk key' hk' rfl
    have lang := mem_keys_langAttr hk'
    subst lang
    rw [List.mem_append, List.mem_append] at hk
    rcases hk with (h | h) | h
    · exact absurd (mem_keys_defaultAttr h) (by decide)
    · obtain ⟨label, -, same⟩ := List.mem_map.1 h
      exact prefix_ne_lang label same
    · exact (legible.own _ h).2 rfl

theorem get?_xmlns :
    (n.declared around).get? "xmlns" = if Node.declaresNs around n.ns then some n.ns else none := by
  unfold Node.declared
  rw [Table.get?_append, Table.get?_append, Table.get?_append,
    get?_prefixAttrs_eq_none n.prefixes prefix_ne_xmlns, get?_langAttr_eq_none n.lang (by decide),
    legible.attrs_get? (.inl (by decide)), Option.or_none, Option.or_none, Option.or_none]
  unfold Node.defaultAttr
  split_ifs <;> rfl

theorem get?_prefix (label : String) :
    (n.declared around).get? ("xmlns:" ++ label) = n.prefixes.get? label := by
  have declares := isDeclaration_labelled label
  unfold Node.declared
  rw [Table.get?_append, Table.get?_append, Table.get?_append,
    get?_defaultAttr_eq_none around n.ns (prefix_ne_xmlns label),
    get?_langAttr_eq_none n.lang (prefix_ne_lang label), get?_prefixAttrs,
    legible.attrs_get? (.inl declares), Option.or_none, Option.or_none]
  rfl

theorem get?_lang : (n.declared around).get? "xml:lang" = n.lang := by
  unfold Node.declared
  rw [Table.get?_append, Table.get?_append, Table.get?_append,
    get?_defaultAttr_eq_none around n.ns (by decide),
    get?_prefixAttrs_eq_none n.prefixes prefix_ne_lang,
    legible.attrs_get? (.inr rfl)]
  cases n.lang <;> rfl

theorem plain_declared : Reference.plain (n.declared around) = n.attrs := by
  have default_dropped : Reference.plain (Node.defaultAttr around n.ns) = [] := by
    unfold Node.defaultAttr
    split_ifs <;> rfl
  have prefixes_dropped : Reference.plain (Node.prefixAttrs n.prefixes) = [] := by
    apply List.filter_eq_nil_iff.2
    intro entry h
    obtain ⟨prefixed, -, rfl⟩ := List.mem_map.1 h
    simp [isDeclaration_labelled]
  have lang_dropped : Reference.plain (Node.langAttr n.lang) = [] := by
    cases n.lang <;> rfl
  have attrs_kept : Reference.plain n.attrs = n.attrs := by
    apply List.filter_eq_self.2
    intro entry h
    have own := legible.own entry.1 (List.mem_map_of_mem h)
    simp [own.1, own.2]
  have split (a b : Table) : Reference.plain (a ++ b) = Reference.plain a ++ Reference.plain b :=
    List.filter_append a b
  unfold Node.declared
  rw [split, split, split, default_dropped, prefixes_dropped, lang_dropped, attrs_kept,
    List.append_nil]
  rfl

end Legible

namespace Reference

/-- The default namespace around an element is the one that its writer counts on. -/
def Surrounds (above : Around) (around : Option String) : Prop :=
  (above.nearest "xmlns").getD "" = around.getD ""

theorem ns_of_not_declares {around : Option String} {ns : String}
    (h : Node.declaresNs around ns = false) : around.getD "" = ns := by
  cases around with
  | none => simpa [Node.declaresNs] using h.symm
  | some outer => simpa [Node.declaresNs] using h

/-- An element that its writer puts into `around` comes to its own namespace inside `above`: it
declares it, or it is the default there. -/
def InForce (above : Around) (around : Option String) (ns : String) : Prop :=
  Node.declaresNs around ns = false → (above.nearest "xmlns").getD "" = ns

theorem Surrounds.inForce {above : Around} {around : Option String} (h : Surrounds above around)
    (ns : String) : InForce above around ns :=
  fun undeclared => Eq.trans h (ns_of_not_declares undeclared)

theorem surrounds_declared {n : Node} (legible : Legible n) {above : Around} {around : Option String}
    (inForce : InForce above around n.ns) : Surrounds (n.declared around :: above) (some n.ns) := by
  unfold InForce Around.nearest at inForce
  unfold Surrounds Around.nearest
  rw [List.findSome?_cons, legible.get?_xmlns]
  cases h : Node.declaresNs around n.ns with
  | true => rfl
  | false =>
    rw [if_neg (by simp)]
    exact inForce h

/-- The reader finds in a written start tag the node that it was written for. -/
theorem element?_declared {n : Node} (legible : Legible n) {above : Around} {around : Option String}
    (inForce : InForce above around n.ns) :
    element? above (Utf8.encode (written n.name (n.declared around))) =
      some ⟨n.declared around, n.bare⟩ := by
  have name := decodeName_encode n.name
  have attrs := attributes?_written legible.name.solid (legible.areKeys around)
    (legible.distinct_declared around)
  have ns : Around.namespaceOf (n.declared around :: above) n.name = some n.ns := by
    rw [Around.namespaceOf, label?_plain legible.noColon]
    dsimp only
    rw [surrounds_declared legible inForce]
    rfl
  have distinct : n.prefixes.keys.Nodup := by
    rw [legible.prefixes]
    exact nodup_eraseDups _
  -- A declared prefix is found in the tag itself, before any tag around it is looked at.
  have resolved : ∀ entry ∈ n.prefixes,
      Around.resolve? (n.declared around :: above) entry.1 = some entry.2 := by
    intro entry h
    have used : entry.1 ∈ n.prefixes.keys := List.mem_map_of_mem h
    rw [legible.prefixes] at used
    have other := (mem_labels used).1
    unfold Around.resolve? Around.nearest
    rw [if_neg other, List.findSome?_cons, legible.get?_prefix, Table.get?_of_mem distinct h]
  have declared : (n.prefixes.keys.all fun label =>
      (Around.resolve? (n.declared around :: above) label).isSome) := by
    rw [List.all_eq_true]
    intro label h
    obtain ⟨entry, mem, rfl⟩ := List.mem_map.1 h
    rw [resolved entry mem]
    rfl
  unfold element?
  rw [tagName_written legible.name.solid, name, attrs]
  dsimp only
  rw [ns, legible.plain_declared, legible.get?_lang, localPart_plain legible.noColon, ← legible.prefixes]
  dsimp only
  rw [if_pos declared, Table.filterMap_keys resolved]
  rfl

end Reference

end XmppStream
