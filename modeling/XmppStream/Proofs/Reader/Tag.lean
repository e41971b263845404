import XmppStream.Proofs.Reader.Reference
import XmppStream.Proofs.Table
import XmppStream.Proofs.Text.Utf8

/-! Start tags. What the reader collects from a tag, attribute by attribute, is what the reference
looks up among all attributes of the tag, since no key stands twice. -/

namespace XmppStream
open Markup

namespace Reference

theorem splitColon_eq (cs : List Char) :
    splitColon cs = match cs.dropWhile (· != ':') with
      | [] => none
      | _ :: rest => some (cs.takeWhile (· != ':'), rest) := by
  induction cs with
  | nil => rfl
  | cons c cs ih =>
    rw [splitColon]
    split_ifs with hc
    · subst hc
      rfl
    · have other : (c != ':') = true := bne_iff_ne.2 hc
      rw [List.dropWhile_cons, List.takeWhile_cons, if_pos other, if_pos other, ih]
      cases cs.dropWhile (· != ':') <;> rfl

theorem ofString_eq (name : String) : QName.ofString name = ⟨label? name, localPart name⟩ := by
  rw [QName.ofString, label?, localPart, splitColon_eq]
  cases name.toList.dropWhile (· != ':') <;> rfl

end Reference

namespace Markup

theorem splitAttribute_new {size : Nat} {seen : List RawAttribute} {b : UInt8} {r rest : Bytes}
    {a : RawAttribute} (h : splitAttribute size seen b r = .ok (a, rest)) :
    ∀ s ∈ seen, s.key ≠ a.key := by
  rw [splitAttribute] at h
  dsimp only at h
  split at h
  · cases h
  split_ifs at h
  split at h
  · cases h
  next new =>
  intro s hs
  cases hv : splitValue size (skipBlanks _) with
  | error e =>
    rw [hv] at h
    cases h
  | ok split =>
    rw [hv] at h
    cases h
    have other := List.find?_eq_none.1 new s hs
    rwa [decide_eq_true_eq] at other

theorem attributesFrom_distinct (size : Nat) (seen : List RawAttribute) (bs : Bytes)
    (h : (seen.map RawAttribute.key).Nodup) :
    ((attributesFrom size seen bs).1.map RawAttribute.key).Nodup := by
  have whole : (seen.reverse.map RawAttribute.key).Nodup := by
    rw [List.map_reverse]
    exact (List.reverse_perm _).nodup_iff.2 h
  fun_induction attributesFrom size seen bs with
  | case1 => exact whole
  | case2 => exact whole
  | case3 seen bs b r skipped a rest split ih =>
    have new : (((a :: seen)).map RawAttribute.key).Nodup := by
      rw [List.map_cons, List.nodup_cons, List.mem_map]
      refine ⟨?_, h⟩
      rintro ⟨s, hs, same⟩
      exact splitAttribute_new split s hs same
    apply ih new
    rw [List.map_reverse]
    exact (List.reverse_perm _).nodup_iff.2 new

end Markup

theorem decodeName_ok {bs : Bytes} {s : String} :
    decodeName bs = .ok s ↔ Utf8.decodeString bs = .ok s := by
  rw [decodeName]
  cases Utf8.decodeString bs with
  | error e => exact ⟨nofun, nofun⟩
  | ok s' => exact ⟨fun h => by cases h; rfl, fun h => by cases h; rfl⟩

theorem decodeName_injective {bs bs' : Bytes} {s : String} (h : decodeName bs = .ok s)
    (h' : decodeName bs' = .ok s) : bs = bs' :=
  Utf8.decodeString_injective (decodeName_ok.1 h) (decodeName_ok.1 h')

namespace Reference

theorem decodeAll_keys {raws : List RawAttribute} {attrs : Table} (h : decodeAll raws = some attrs)
    (distinct : (raws.map RawAttribute.key).Nodup) :
    attrs.keys.Nodup ∧ ∀ key ∈ attrs.keys, ∃ a ∈ raws, decodeName a.key = .ok key := by
  induction raws generalizing attrs with
  | nil =>
    cases h
    exact ⟨List.nodup_nil, nofun⟩
  | cons a raws ih =>
    rw [List.map_cons, List.nodup_cons] at distinct
    rw [decodeAll] at h
    split at h
    case h_2 => cases h
    next key value rest hk hv hr =>
    cases h
    obtain ⟨nodup, source⟩ := ih hr distinct.2
    refine ⟨?_, ?_⟩
    · rw [Table.keys_cons, List.nodup_cons]
      refine ⟨fun hm => ?_, nodup⟩
      obtain ⟨a', ha', hk'⟩ := source key hm
      apply distinct.1
      -- Two keys that decode alike have the same bytes.
      rw [decodeName_injective hk hk']
      exact List.mem_map_of_mem ha'
    · intro k hm
      rw [Table.keys_cons, List.mem_cons] at hm
      rcases hm with rfl | hm
      · exact ⟨a, List.mem_cons_self .., hk⟩
      · obtain ⟨a', ha', hk'⟩ := source k hm
        exact ⟨a', List.mem_cons_of_mem _ ha', hk'⟩

theorem attributes?_distinct {content : Bytes} {attrs : Table} (h : attributes? content = some attrs) :
    attrs.keys.Nodup := by
  have distinct := attributesFrom_distinct content.length [] (content.dropWhile (!isBlankByte ·))
    List.nodup_nil
  rw [attributes?] at h
  split at h
  · next raws split =>
    rw [← attributes, split] at distinct
    exact (decodeAll_keys h distinct).1
  · cases h

def collect (t : StartTag) (attrs : Table) : StartTag :=
  attrs.foldl (fun t (key, value) => t.add key value) t

theorem collect_cons (t : StartTag) (key value : String) (attrs : Table) :
    collect t ((key, value) :: attrs) = collect (t.add key value) attrs := rfl

theorem toOption_addAll (t : StartTag) (raws : List RawAttribute) :
    (t.addAll none raws).toOption = (decodeAll raws).map (collect t) := by
  induction raws generalizing t with
  | nil => rfl
  | cons a raws ih =>
    rw [StartTag.addAll, decodeAll]
    cases decodeName a.key with
    | error e => rfl
    | ok key =>
      cases decodeText a.value with
      | error e => rfl
      | ok value =>
        dsimp only
        rw [ih]
        cases decodeAll raws <;> rfl

theorem toOption_addAll_fault (t : StartTag) (e : AttributeFault) (raws : List RawAttribute) :
    (t.addAll (some e) raws).toOption = none := by
  induction raws generalizing t with
  | nil => rfl
  | cons a raws ih =>
    rw [StartTag.addAll]
    cases decodeName a.key with
    | error e => rfl
    | ok key =>
      cases decodeText a.value with
      | error e => rfl
      | ok value => exact ih _

theorem toOption_read (name : String) (tag : Bytes) :
    (StartTag.read name tag).toOption = (attributes? tag).map (collect ⟨name, {}, none, []⟩) := by
  rw [StartTag.read, attributes?]
  rcases attributes tag with ⟨raws, _ | e⟩
  · exact toOption_addAll _ raws
  · exact toOption_addAll_fault _ e raws

theorem name_collect (t : StartTag) (attrs : Table) : (collect t attrs).name = t.name := by
  induction attrs generalizing t with
  | nil => rfl
  | cons entry attrs ih =>
    obtain ⟨key, value⟩ := entry
    rw [collect_cons, ih, StartTag.add]
    split_ifs <;> rfl

theorem isDeclaration_iff {key : String} :
    isDeclaration key ↔ key = "xmlns" ∨ "xmlns:".toList.isPrefixOf key.toList := by
  rw [isDeclaration, Bool.or_eq_true, decide_eq_true_eq]

theorem plain_cons (key value : String) (attrs : Table) :
    plain ((key, value) :: attrs) =
      if isDeclaration key ∨ key = "xml:lang" then plain attrs else (key, value) :: plain attrs := by
  rw [plain, List.filter_cons, ← plain]
  by_cases h : isDeclaration key <;> by_cases h' : key = "xml:lang" <;> simp [h, h']

theorem label_eq_drop {key label : String} (h : "xmlns:".toList.isPrefixOf key.toList) :
    label = String.ofList (key.toList.drop 6) ↔ key = "xmlns:" ++ label := by
  obtain ⟨rest, split⟩ := List.isPrefixOf_iff_prefix.1 h
  have dropped : key.toList.drop 6 = rest := by
    rw [← split]
    rfl
  rw [dropped]
  constructor
  · rintro rfl
    rw [← String.toList_inj, ← split, String.toList_append, String.toList_ofList (l := rest)]
  · rintro rfl
    rw [String.toList_append] at split
    rw [List.append_cancel_left split, String.ofList_toList]

section
variable (t : StartTag) (key value : String)

theorem attrs_add : (t.add key value).attrs =
    if isDeclaration key ∨ key = "xml:lang" then t.attrs else t.attrs ++ [(key, value)] := by
  rw [StartTag.add]
  simp only [isDeclaration_iff]
  split_ifs with h₁ h₂ h₃ h₄ h₅ h₆ <;> simp_all

theorem lang_add : (t.add key value).lang = if key = "xml:lang" then some value else t.lang := by
  rw [StartTag.add]
  split_ifs with h₁ h₂ h₃ h₄ <;> simp_all

theorem defaultNs_add : (t.add key value).scope.defaultNs =
    if key = "xmlns" then some value else t.scope.defaultNs := by
  rw [StartTag.add]
  split_ifs <;> rfl

theorem prefixes_add (label : String) : (t.add key value).scope.prefixes.get? label =
    (t.scope.prefixes.get? label).or (if key = "xmlns:" ++ label then some value else none) := by
  have starts : key = "xmlns:" ++ label → "xmlns:".toList.isPrefixOf key.toList := by
    rintro rfl
    rw [List.isPrefixOf_iff_prefix, String.toList_append]
    exact List.prefix_append _ _
  rw [StartTag.add]
  by_cases hp : "xmlns:".toList.isPrefixOf key.toList
  · have other : key ≠ "xmlns" := by
      rintro rfl
      revert hp
      decide
    rw [if_neg other, if_pos hp]
    dsimp only
    rw [Table.get?_append, Table.get?_cons, Table.get?_nil]
    simp only [label_eq_drop hp]
  · rw [if_neg (mt starts hp), Option.or_none, if_neg hp]
    split_ifs <;> rfl

end

section
variable (t : StartTag) (attrs : Table)

theorem attrs_collect : (collect t attrs).attrs = t.attrs ++ plain attrs := by
  induction attrs generalizing t with
  | nil => exact (List.append_nil _).symm
  | cons entry attrs ih =>
    obtain ⟨key, value⟩ := entry
    rw [collect_cons, ih, attrs_add, plain_cons]
    split_ifs
    · rfl
    · rw [List.append_assoc, List.singleton_append]

theorem prefixes_collect (label : String) : (collect t attrs).scope.prefixes.get? label =
    (t.scope.prefixes.get? label).or (attrs.get? ("xmlns:" ++ label)) := by
  induction attrs generalizing t with
  | nil => rw [Table.get?_nil, Option.or_none]; rfl
  | cons entry attrs ih =>
    obtain ⟨key, value⟩ := entry
    rw [collect_cons, ih, prefixes_add, Table.get?_cons, Option.or_assoc]
    simp only [eq_comm (a := key)]
    split_ifs <;> rfl

variable (distinct : attrs.keys.Nodup)
include distinct

theorem lang_collect : (collect t attrs).lang = (attrs.get? "xml:lang").or t.lang :=
  @Table.read_foldl _ _ (·.lang) _ lang_add _ distinct t

theorem defaultNs_collect :
    (collect t attrs).scope.defaultNs = (attrs.get? "xmlns").or t.scope.defaultNs :=
  @Table.read_foldl _ _ (·.scope.defaultNs) _ defaultNs_add _ distinct t

theorem ofAttrs_eq (lang defaultNs : Option String) :
    Header.ofAttrs lang defaultNs attrs =
      { receiver := attrs.get? "to"
        sender := attrs.get? "from"
        id := attrs.get? "id"
        version := attrs.get? "version"
        lang
        defaultNs } := by
  -- A key that is known does not come again in the rest, so the order does not matter.
  have build : ∀ h : Header, attrs.foldl (fun h (key, value) =>
      if key = "to" then { h with receiver := some value }
      else if key = "from" then { h with sender := some value }
      else if key = "id" then { h with id := some value }
      else if key = "version" then { h with version := some value }
      else h) h =
        { h with
          receiver := (attrs.get? "to").or h.receiver
          sender := (attrs.get? "from").or h.sender
          id := (attrs.get? "id").or h.id
          version := (attrs.get? "version").or h.version } := by
    induction attrs with
    | nil => exact fun h => rfl
    | cons entry attrs ih =>
      obtain ⟨key, value⟩ := entry
      rw [Table.keys_cons, List.nodup_cons] at distinct
      have absent := Table.get?_eq_none distinct.1
      intro h
      rw [List.foldl_cons, ih distinct.2]
      simp only [Table.get?_cons, eq_comm (b := key)]
      split_ifs with h₁ h₂ h₃ h₄ <;> simp_all
  rw [Header.ofAttrs, build]
  simp only [Option.or_none]

end

structure Agree (scopes : List Scope) (around : Around) : Prop where
  defaultNs : scopes.findSome? (·.defaultNs) = around.nearest "xmlns"
  prefixes : ∀ label,
    scopes.findSome? (·.prefixes.get? label) = around.nearest ("xmlns:" ++ label)

namespace Agree

theorem nil : Agree [] [] := ⟨rfl, fun _ => rfl⟩

variable {scopes : List Scope} {around : Around}

theorem cons (agree : Agree scopes around) (name : String) {attrs : Table}
    (distinct : attrs.keys.Nodup) :
    Agree ((collect ⟨name, {}, none, []⟩ attrs).scope :: scopes) (attrs :: around) := by
  constructor
  · rw [List.findSome?_cons, defaultNs_collect _ _ distinct, Option.or_none, agree.defaultNs,
      Around.nearest, Around.nearest, List.findSome?_cons]
  · intro label
    rw [List.findSome?_cons, prefixes_collect, agree.prefixes, Around.nearest, Around.nearest,
      List.findSome?_cons]
    rfl

theorem resolve?_eq (agree : Agree scopes around) (label : String) :
    Scope.resolve? scopes label = around.resolve? label := by
  rw [Scope.resolve?, Around.resolve?, agree.prefixes]

theorem toOption_elementNs (agree : Agree scopes around) (t : StartTag) :
    (t.elementNs scopes).toOption = around.namespaceOf t.name := by
  rw [StartTag.elementNs, Around.namespaceOf, ofString_eq]
  cases label? t.name with
  | none => rw [Scope.defaultOf, agree.defaultNs]; rfl
  | some label =>
    dsimp only
    rw [agree.resolve?_eq]
    cases around.resolve? label <;> rfl

end Agree

theorem uses_cons (key value : String) (attrs : Table) :
    uses ((key, value) :: attrs) = (label? key).toList ++ uses attrs := by
  rw [uses, List.filterMap_cons, ← uses]
  dsimp only
  cases label? key <;> rfl

theorem all_labels (attrs : Table) (p : String → Bool) (xml : p "xml") :
    (labels attrs).all p = (uses attrs).all p := by
  rw [Bool.eq_iff_iff, List.all_eq_true, List.all_eq_true, labels]
  simp only [List.mem_eraseDups, List.mem_filter, decide_eq_true_eq, ne_eq]
  constructor
  · intro h label hl
    by_cases hx : label = "xml"
    · rwa [hx]
    · exact h label ⟨hl, hx⟩
  · intro h label hl
    exact h label hl.1

theorem toOption_attrPrefixes (element : String) (scopes : List Scope) (found attrs : Table) :
    (StartTag.attrPrefixes element scopes found attrs).toOption =
      if (uses attrs).all fun label => (Scope.resolve? scopes label).isSome then
        some (found ++ (((uses attrs).filter (· ≠ "xml")).filter
          fun label => !(found.get? label).isSome).eraseDups.filterMap
            fun label => (Scope.resolve? scopes label).map fun ns => (label, ns))
      else none := by
  induction attrs generalizing found with
  | nil => simp [StartTag.attrPrefixes, uses, Except.toOption]
  | cons entry attrs ih =>
    obtain ⟨key, value⟩ := entry
    rw [StartTag.attrPrefixes, ofString_eq]
    cases hl : label? key with
    | none =>
      rw [uses_cons, hl]
      exact ih found
    | some label =>
      rw [uses_cons, hl, Option.toList_some, List.singleton_append, List.all_cons]
      dsimp only
      cases hr : Scope.resolve? scopes label with
      | none => rfl
      | some ns =>
        dsimp only
        rw [ih, Option.isSome_some, Bool.true_and]
        congr 2
        -- The reader skips a label that it has found before, the reference drops its repetitions.
        by_cases known : label = "xml" ∨ (found.get? label).isSome
        · rw [if_pos known]
          rcases known with rfl | known
          · rw [List.filter_cons_of_neg (by simp)]
          · by_cases xml : label = "xml"
            · rw [List.filter_cons_of_neg (by simp [xml])]
            · rw [List.filter_cons_of_pos (by simp [xml]), List.filter_cons_of_neg (by simp [known])]
        · rw [if_neg known]
          rw [not_or, Bool.not_eq_true] at known
          rw [List.filter_cons_of_pos (by simp [known.1]),
            List.filter_cons_of_pos (by simp [known.2]), List.eraseDups_cons,
            List.filterMap_cons_some (by rw [hr]; rfl), List.append_assoc, List.singleton_append,
            List.filter_filter, List.filter_filter, List.filter_filter]
          congr 4
          refine List.filter_congr fun other _ => ?_
          rw [Table.get?_append, Table.get?_cons, Table.get?_nil]
          by_cases same : other = label
          · simp [same]
          · simp [same, beq_false_of_ne same]

theorem get?_plain {attrs : Table} {key : String} (own : !isDeclaration key && key ≠ "xml:lang") :
    (plain attrs).get? key = attrs.get? key := Table.get?_filter fun _ => own

theorem ok_of_toOption {ε α : Type} {x : Except ε α} {a : α} (h : x.toOption = some a) :
    x = .ok a := by
  cases x with
  | error e => cases h
  | ok a' => cases h; rfl

/-- The start tag `t` that the reader finds in the content of a tag begins the element `e`. -/
structure Begins (scopes : List Scope) (above : Around) (tag : Bytes) (e : Element)
    (t : StartTag) : Prop where
  name : decodeName (tagName tag) = .ok t.name
  read : StartTag.read t.name tag = .ok t
  ns : t.elementNs (t.scope :: scopes) = .ok e.node.ns
  prefixes : StartTag.attrPrefixes t.name (t.scope :: scopes) [] t.attrs = .ok e.node.prefixes
  agree : Agree (t.scope :: scopes) (e.attrs :: above)
  defaultNs : t.scope.defaultNs = e.attrs.get? "xmlns"
  header : ∀ defaultNs,
    Header.ofAttrs t.lang defaultNs t.attrs = { header e.attrs with defaultNs }
  local_name : (QName.ofString t.name).localName = e.node.name
  node : e.node = {
    name := e.node.name
    ns := e.node.ns
    prefixes := e.node.prefixes
    attrs := t.attrs.foldl (fun attrs (key, value) => attrs.put key value) []
    lang := t.lang }

theorem begins_of_element? {scopes : List Scope} {above : Around} {tag : Bytes} {e : Element}
    (agree : Agree scopes above) (h : element? above tag = some e) :
    ∃ t, Begins scopes above tag e t := by
  rw [element?] at h
  split at h
  case h_2 => cases h
  next name attrs hn ha =>
  have distinct := attributes?_distinct ha
  have own : (plain attrs).keys.Nodup := Table.nodup_keys_filter _ distinct
  have inside := agree.cons name distinct
  have read := toOption_read name tag
  rw [ha] at read
  dsimp only at h
  split at h
  · cases h
  next ns hns =>
  split_ifs at h with declared
  cases h
  have lang := lang_collect ⟨name, {}, none, []⟩ attrs distinct
  have attrs_eq := attrs_collect ⟨name, {}, none, []⟩ attrs
  rw [Option.or_none] at lang
  rw [List.nil_append] at attrs_eq
  have hname := name_collect ⟨name, {}, none, []⟩ attrs
  -- The start tag collected from the attributes is the one that the reader has.
  refine ⟨collect ⟨name, {}, none, []⟩ attrs, ?_⟩
  constructor
  · rw [hname, hn]
  · rw [hname]
    exact ok_of_toOption read
  · apply ok_of_toOption
    rw [inside.toOption_elementNs, hname, hns]
  · apply ok_of_toOption
    rw [all_labels _ _ rfl] at declared
    simp only [toOption_attrPrefixes, attrs_eq, inside.resolve?_eq]
    rw [if_pos declared, labels]
    simp
  · exact inside
  · rw [defaultNs_collect _ _ distinct, Option.or_none]
  · intro defaultNs
    rw [attrs_eq, lang, ofAttrs_eq _ own, get?_plain rfl, get?_plain rfl, get?_plain rfl,
      get?_plain rfl]
    rfl
  · rw [hname, ofString_eq]
  · rw [attrs_eq, lang, Table.foldl_put [] (plain attrs) own, List.nil_append]

theorem refused_of_element? {r : Reader} {above : Around} {tag : Bytes}
    (agree : Agree r.scopes above) (h : element? above tag = none) :
    (r.opening tag).toOption = none := by
  rw [Reader.opening]
  rw [element?] at h
  cases hn : decodeName (tagName tag) with
  | error e => rfl
  | ok name =>
    dsimp only
    split_ifs
    · rfl
    · rfl
    have read := toOption_read name tag
    split
    · rfl
    next t ht =>
    rw [ht] at read
    cases ha : attributes? tag with
    | none =>
      rw [ha] at read
      cases read
    | some attrs =>
      rw [ha] at read
      cases read
      -- The attributes are in order, so the fault is a label that nothing declares.
      have inside := agree.cons name (attributes?_distinct ha)
      have attrs_eq := attrs_collect ⟨name, {}, none, []⟩ attrs
      have ns := inside.toOption_elementNs (collect ⟨name, {}, none, []⟩ attrs)
      have prefixes := toOption_attrPrefixes name
        ((collect ⟨name, {}, none, []⟩ attrs).scope :: r.scopes) [] (plain attrs)
      rw [hn, ha] at h
      dsimp only at h
      rw [Reader.startTag, name_collect, attrs_eq, List.nil_append]
      rw [name_collect] at ns
      dsimp only
      split
      · rfl
      next ns' hns =>
      rw [hns] at ns
      rw [← ns] at h
      dsimp only [Except.toOption] at h
      split_ifs at h with undeclared
      rw [all_labels _ _ rfl] at undeclared
      simp only [inside.resolve?_eq] at prefixes
      rw [if_neg undeclared] at prefixes
      split
      · rfl
      next prefixes' hp =>
      rw [hp] at prefixes
      cases prefixes

theorem Begins.opening {r : Reader} {above : Around} {tag : Bytes} {e : Element} {t : StartTag}
    (begins : Begins r.scopes above tag e t) (open_ : r.finished = false)
    (between : r.inFraming = false) :
    r.opening tag = if r.depth = 0 then r.enterTop t e.node.ns e.node.prefixes
      else .ok (r.enterNode t e.node.ns e.node.prefixes, []) := by
  rw [Reader.opening, begins.name]
  dsimp only
  rw [open_, between, begins.read]
  dsimp only
  rw [Reader.startTag, begins.ns]
  dsimp only
  rw [begins.prefixes]
  rfl

theorem Begins.enterNode {scopes : List Scope} {above : Around} {tag : Bytes} {e : Element}
    {t : StartTag} (begins : Begins scopes above tag e t) (r : Reader) :
    r.enterNode t e.node.ns e.node.prefixes =
      { r.enter t.name (t.scope :: r.scopes) with nodes := { node := e.node } :: r.nodes } := by
  rw [Reader.enterNode, begins.node, begins.local_name]

end Reference
end XmppStream
