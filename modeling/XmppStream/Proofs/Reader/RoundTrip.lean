import XmppStream.Proofs.Reader.Framing
import XmppStream.Proofs.Reader.Origins

/-! Reading a stanza, writing it and reading it again. A node that came out of a reader is legible in
its written form unless its name or a key of it has a mark that means something else there. -/

namespace XmppStream
open Markup Reference

/-- The name and the keys of the node stand for themselves in its tags. -/
structure Writable (n : Node) : Prop where
  named : n.name ≠ ""
  begins : ∀ c ∈ ['!', '?', '/'], n.name.toList.head? ≠ some c
  ends : n.name.toList.getLast? ≠ some '/'
  name : ∀ c ∈ [':', '\'', '"', '>'], c ∉ n.name.toList
  keys : ∀ key ∈ n.attrs.keys, ∀ c ∈ ['\'', '"', '>'], c ∉ key.toList

instance (n : Node) : Decidable (Writable n) :=
  decidable_of_iff (n.name ≠ "" ∧ ['!', '?', '/'].all (n.name.toList.head? ≠ some ·)
      ∧ n.name.toList.getLast? ≠ some '/' ∧ [':', '\'', '"', '>'].all (· ∉ n.name.toList)
      ∧ n.attrs.keys.all fun key => ['\'', '"', '>'].all (· ∉ key.toList)) <| by
    simp only [List.all_eq_true, decide_eq_true_eq]
    exact ⟨fun h => ⟨h.1, h.2.1, h.2.2.1, h.2.2.2.1, h.2.2.2.2⟩,
      fun h => ⟨h.named, h.begins, h.ends, h.name, h.keys⟩⟩

namespace Markup

/-- The bytes of a key: all up to the first blank or equals sign after its first byte. -/
def IsKeyBytes (key : Bytes) : Prop := ∃ b r, key = b :: r ∧ !isBlankByte b ∧ ∀ c ∈ r, isKeyByte c

theorem splitAttribute_key {size : Nat} {seen : List RawAttribute} {b : UInt8} {r rest : Bytes}
    {a : RawAttribute} (h : splitAttribute size seen b r = .ok (a, rest)) :
    a.key = b :: r.takeWhile isKeyByte := by
  rw [splitAttribute] at h
  dsimp only at h
  split at h
  · cases h
  split_ifs at h
  split at h
  · cases h
  cases hv : splitValue size (skipBlanks _) with
  | error e =>
    rw [hv] at h
    cases h
  | ok split =>
    rw [hv] at h
    cases h
    rfl

theorem attributesFrom_keys (size : Nat) (seen : List RawAttribute) (bs : Bytes)
    (h : ∀ a ∈ seen, IsKeyBytes a.key) :
    ∀ a ∈ (attributesFrom size seen bs).1, IsKeyBytes a.key := by
  fun_induction attributesFrom size seen bs with
  | case1 => simpa using h
  | case2 => simpa using h
  | case3 seen bs b r skipped a rest split ih =>
    have solid : !isBlankByte b := by
      have head := List.head?_dropWhile_not isBlankByte bs
      rw [← skipBlanks, skipped] at head
      simpa using head
    have key : IsKeyBytes a.key :=
      ⟨b, _, splitAttribute_key split, solid, fun c mem => List.mem_takeWhile_imp mem⟩
    exact ih (List.forall_mem_cons.2 ⟨key, h⟩)

theorem unquoted_of_free {s : String} (free : ∀ c ∈ ['\'', '"', '>'], c ∉ s.toList) :
    ∀ b ∈ Utf8.encode s, !(isQuote b || isGt b) := by
  refine all_encode ['\'', '"', '>'] rfl ?_ free
  intro b h
  simp only [isQuote, isGt, Bool.not_eq_false', Bool.or_eq_true, decide_eq_true_eq] at h
  rcases h with (rfl | rfl) | rfl
  · exact ⟨'"', by decide, rfl⟩
  · exact ⟨'\'', by decide, rfl⟩
  · exact ⟨'>', by decide, rfl⟩

end Markup

namespace Reference

theorem isKeyBytes_of_attributes? {tag : Bytes} {attrs : Table} (h : attributes? tag = some attrs) :
    ∀ key ∈ attrs.keys, IsKeyBytes (Utf8.encode key) := by
  have distinct := attributesFrom_distinct tag.length [] (tag.dropWhile (!isBlankByte ·)) List.nodup_nil
  have keys := attributesFrom_keys tag.length [] (tag.dropWhile (!isBlankByte ·)) nofun
  rw [attributes?] at h
  split at h
  · next raws split =>
    rw [← attributes, split] at distinct keys
    intro key mem
    obtain ⟨a, raw, decoded⟩ := (decodeAll_keys h distinct).2 key mem
    rw [Utf8.encode_of_decodeString (decodeName_ok.1 decoded)]
    exact keys a raw
  · cases h

theorem front_of_label? {key label : String} (h : label? key = some label) :
    label.toList <+: key.toList := by
  obtain ⟨parts, split, rfl⟩ := Option.map_eq_some_iff.1 h
  rw [String.toList_ofList, eq_append_of_splitColon split]
  exact List.prefix_append _ _

theorem localPart_suffix (name : String) : (localPart name).toList <:+ name.toList := by
  unfold localPart
  split
  · exact List.suffix_refl _
  · next parts split =>
    rw [String.toList_ofList, eq_append_of_splitColon split, List.append_cons]
    exact List.suffix_append _ _

end Reference

namespace Reader

variable {n : Node} {start : Start}

theorem FromTag.readsAsName (h : FromTag n start) (writable : Writable n) : ReadsAsName n.name := by
  obtain ⟨b, r, bytes⟩ := List.exists_cons_of_ne_nil (mt Utf8.encode_eq_nil.1 writable.named)
  refine ⟨⟨b, r, bytes, ?_, ?_, ?_⟩, ?_, ?_, ?_⟩
  · rintro rfl
    exact writable.begins '!' (by decide) (@Utf8.head_of_encode _ '!' r (by decide) bytes)
  · rintro rfl
    exact writable.begins '?' (by decide) (@Utf8.head_of_encode _ '?' r (by decide) bytes)
  · rintro rfl
    exact writable.begins '/' (by decide) (@Utf8.head_of_encode _ '/' r (by decide) bytes)
  · exact fun last => writable.ends (@Utf8.last_of_encode _ '/' (by decide) last)
  · obtain ⟨name, decoded, same⟩ := h.name
    intro b mem
    have whole : b ∈ Utf8.encode name := by
      rw [same, Utf8.encode, List.mem_flatMap] at mem
      obtain ⟨c, inside, mem⟩ := mem
      exact List.mem_flatMap.2 ⟨c, (localPart_suffix name).subset inside, mem⟩
    rw [Utf8.encode_of_decodeString (decodeName_ok.1 decoded)] at whole
    exact List.mem_takeWhile_imp (p := (!isBlankByte ·)) whole
  · apply unquoted_of_free
    intro c mem
    exact writable.name c (List.mem_cons_of_mem _ mem)

theorem FromTag.declaration (h : FromTag n start) (writable : Writable n) {label : String}
    (mem : label ∈ n.prefixes.keys) : ReadsAsKey ("xmlns:" ++ label) := by
  have bound := mem
  rw [h.prefixes] at mem
  obtain ⟨-, key, used, qualified⟩ := mem_labels mem
  obtain ⟨⟨label, ns⟩, entry, rfl⟩ := List.mem_map.1 bound
  obtain ⟨attrs, inForce, declared⟩ := List.exists_of_findSome?_eq_some (h.nearest label ns entry)
  obtain ⟨tag, -, rfl⟩ := List.mem_map.1 inForce
  refine ⟨?_, ?_⟩
  · cases read : attributes? tag with
    | none =>
      rw [read] at declared
      cases declared
    | some attrs =>
      rw [read] at declared
      apply isKeyBytes_of_attributes? read
      by_contra absent
      rw [Option.getD_some, Table.get?_eq_none absent] at declared
      cases declared
  · apply unquoted_of_free
    intro c mark mem
    rw [String.toList_append, List.mem_append] at mem
    rcases mem with mem | mem
    · revert mem
      have free : ∀ c ∈ ['\'', '"', '>'], c ∉ "xmlns:".toList := by simp
      exact free c mark
    · exact writable.keys key used c mark ((front_of_label? qualified).subset mem)

/-- A node that came out of a reader comes back from its written form, if its name and its keys do. -/
theorem FromTag.legible (h : FromTag n start) (writable : Writable n) : Legible n where
  name := h.readsAsName writable
  noColon := writable.name ':' (by decide)
  keys key mem := by
    obtain ⟨attrs, read, own, -⟩ := h.attrs
    have inTag : key ∈ attrs.keys := by
      rw [own] at mem
      exact (List.filter_sublist.map Prod.fst).subset mem
    exact ⟨isKeyBytes_of_attributes? read key inTag, unquoted_of_free (writable.keys key mem)⟩
  own key mem := by
    obtain ⟨other, declares, lang⟩ := h.undeclaring key mem
    refine ⟨?_, lang⟩
    rw [← Bool.not_eq_true, isDeclaration_iff, List.isPrefixOf_iff_prefix]
    exact not_or.2 ⟨other, declares⟩
  declarations label mem := h.declaration writable mem
  distinct := h.distinct
  prefixes := h.prefixes
  text text said blank := by
    obtain ⟨c, mem, solid⟩ := h.text text said
    exact solid (List.all_eq_true.1 blank c mem)

/-- A stanza that came out of a reader and is written comes out of any new reader again as it was,
whatever the input was, unless a name or a key in it means something else in a tag. -/
theorem push_toXml (framing : Framing) (limit : Nat) (pieces : List Bytes) (i : Nat) (s : Stanza)
    (event : ((fresh framing limit).pushAll pieces).2[i]? = some (.stanza s))
    (writable : ∀ n ∈ s.preorder, Writable n) (limit' : Nat)
    (fits : (Utf8.encode s.toXml).length ≤ limit') :
    (fresh .standalone limit').push (Utf8.encode s.toXml) =
      (fresh .standalone limit', [.stanza s]) := by
  rw [events_pushAll rfl] at event
  obtain ⟨before, element, after, -, -, -, nodes⟩ := grown_of_event event
  have origin : ∀ n ∈ s.preorder, ∃ start, FromTag n start :=
    ((List.forall₂_and_left _ _).1 (nodes.imp fun n start here => ⟨⟨start, here⟩, here⟩)).1
  -- Each node comes from a start tag, so it is legible where its name and keys are writable.
  have legible : s.All Legible := by
    apply Node.all_of_preorder
    intro n mem
    obtain ⟨start, fromTag⟩ := origin n mem
    exact fromTag.legible (writable n mem)
  have enters := @enter_legible .standalone {} s legible.here nofun nofun
  have takes := Takes.stanza (.fresh .standalone limit') (idle_fresh .standalone limit') legible
    (surrounds_above .standalone nofun) enters fits
  refine takes.push rfl rfl ?_
  obtain ⟨r, begins⟩ := Node.beginsTag_write none s
  rw [Framing.around, begins]
  simp [byteOrderMark]

def unusualPieces : List Bytes :=
  [Utf8.encode "<s:stream xmlns:s='http://etherx.jabber.org/streams' xmlns='d' xmlns:='e' xmlns:p='u'>",
    Utf8.encode "<p:a<b==/c p:k:l=\"'\" :k='1' =='2' xml:lang=''>&lt;<![CDATA[<]]>",
    Utf8.encode "<x xmlns=''/></p:a<b==/c>"]

def unusualStanza : Stanza :=
  { name := "a<b==/c", ns := "u", prefixes := [("p", "u"), ("", "e")],
    attrs := [("p:k:l", "'"), (":k", "1"), ("=", "2")], lang := some "", text := some "<<",
    children := [{ name := "x" }] }

theorem push_toXml_unusualPieces :
    ((fresh .stream 200).pushAll unusualPieces).2[1]? = some (.stanza unusualStanza)
      ∧ (∀ n ∈ unusualStanza.preorder, Writable n)
      ∧ (Utf8.encode unusualStanza.toXml).length ≤ 120
      ∧ (fresh .standalone 120).push (Utf8.encode unusualStanza.toXml) =
        (fresh .standalone 120, [.stanza unusualStanza]) :=
  have event : ((fresh .stream 200).pushAll unusualPieces).2[1]? = some (.stanza unusualStanza) := by
    decide +kernel
  have writable : ∀ n ∈ unusualStanza.preorder, Writable n := by decide +kernel
  have fits : (Utf8.encode unusualStanza.toXml).length ≤ 120 := by decide +kernel
  ⟨event, writable, fits, push_toXml .stream 200 unusualPieces 1 unusualStanza event writable 120 fits⟩

/-- Behind the first colon a name keeps the others, and written alone it has a prefix that nothing
declares. -/
theorem not_always_push_toXml :
    ¬ ∀ (framing : Framing) (limit : Nat) (pieces : List Bytes) (i : Nat) (s : Stanza) (limit' : Nat),
      ((fresh framing limit).pushAll pieces).2[i]? = some (.stanza s) →
      (Utf8.encode s.toXml).length ≤ limit' →
      let again := (fresh .standalone limit').push (Utf8.encode s.toXml)
      again.1.fault = none ∧ again.1.depth = 0 ∧ again.2 = [.stanza s] := by
  intro always
  have again := always .standalone 40 [Utf8.encode "<x:y:z xmlns:x='u'/>"] 0
    { name := "y:z", ns := "u" } 40 (by decide +kernel) (by decide +kernel)
  revert again
  decide +kernel

end Reader
end XmppStream
