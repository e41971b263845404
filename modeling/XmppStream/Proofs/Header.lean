import XmppStream.Header
import XmppStream.Proofs.Node.Plain

/-! The elements that open a stream, as they are written and as they are read back: the header comes
through but for fields that are empty, which are not written. -/

namespace XmppStream
open Markup Reference

namespace Header

def received (h : Header) : Header :=
  { h with
    receiver := h.receiver.filter (· ≠ "")
    sender := h.sender.filter (· ≠ "")
    id := h.id.filter (· ≠ "")
    version := h.version.filter (· ≠ "")
    lang := h.lang.filter (· ≠ "") }

def field (key : String) (value : Option String) : Table :=
  (value.filter (· ≠ "")).toList.map fun value => (key, value)

def fields (h : Header) : Table :=
  field "to" h.receiver ++ field "from" h.sender ++ field "id" h.id ++ field "version" h.version
    ++ field "xml:lang" h.lang

def wrapper (h : Header) : Table :=
  h.fields ++ [("xmlns", h.defaultNs.getD Namespace.client), ("xmlns:stream", Namespace.stream)]

def opening (h : Header) : Table := ("xmlns", Namespace.framing) :: h.fields

theorem writeField_eq (key : String) (value : Option String) :
    writeField key value = writeAttrs (field key value) := by
  unfold writeField field
  cases value with
  | none => rfl
  | some value =>
    rw [Option.filter_some]
    by_cases empty : value = ""
    · simp [empty, writeAttrs]
    · simp [empty, writeAttrs, String.join_cons]

theorem writeFields_eq (h : Header) : h.writeFields = writeAttrs h.fields := by
  unfold writeFields fields
  simp only [writeField_eq, writeAttrs_append]

theorem toStreamOpen_eq (h : Header) :
    h.toStreamOpen =
      "<?xml version='1.0'?>" ++ ("<" ++ written "stream:stream" h.wrapper ++ ">") := by
  have front : "<?xml version='1.0'?><stream:stream" =
      "<?xml version='1.0'?>" ++ ("<" ++ "stream:stream") := by decide +kernel
  have back : " xmlns:stream='" ++ (Namespace.stream ++ "'>") =
      writeAttr "xmlns:stream" Namespace.stream ++ ">" := by decide +kernel
  have last : writeAttrs [("xmlns:stream", Namespace.stream)] =
      writeAttr "xmlns:stream" Namespace.stream := by decide +kernel
  unfold toStreamOpen wrapper written
  rw [writeFields_eq, writeAttrs_append, writeAttrs_cons, last, front]
  simp only [String.append_assoc]
  rw [back]

theorem toWebSocketOpen_eq (h : Header) :
    h.toWebSocketOpen = "<" ++ written "open" h.opening ++ "/>" := by
  have front : "<open xmlns='" ++ Namespace.framing ++ "'" =
      "<" ++ ("open" ++ writeAttr "xmlns" Namespace.framing) := by decide +kernel
  unfold toWebSocketOpen opening written
  rw [writeFields_eq, writeAttrs_cons, front]
  simp only [String.append_assoc]

theorem beginsTag_toStreamOpen (h : Header) : BeginsTag h.toStreamOpen := by
  rw [toStreamOpen_eq]
  exact BeginsTag.append ⟨_, rfl⟩ _

theorem beginsTag_toWebSocketOpen (h : Header) : BeginsTag h.toWebSocketOpen := by
  rw [toWebSocketOpen_eq, String.append_assoc]
  exact beginsTag_lt _

theorem get?_field (key key' : String) (value : Option String) :
    (field key value).get? key' = if key' = key then value.filter (· ≠ "") else none := by
  unfold field
  cases value.filter (· ≠ "") with
  | none => simp
  | some value => rw [Option.toList_some, List.map_singleton, Table.get?_cons, Table.get?_nil]

def keys : List String := ["xmlns", "to", "from", "id", "version", "xml:lang", "xmlns:stream"]

theorem keys_field (key : String) (value : Option String) :
    (field key value).keys.Sublist [key] := by
  unfold field
  cases value.filter (· ≠ "") with
  | none => exact List.nil_sublist _
  | some value => exact List.Sublist.refl _

theorem keys_fields (h : Header) :
    h.fields.keys.Sublist ["to", "from", "id", "version", "xml:lang"] := by
  unfold fields
  simp only [Table.keys_append]
  exact ((((keys_field "to" h.receiver).append (keys_field "from" h.sender)).append
    (keys_field "id" h.id)).append (keys_field "version" h.version)).append
      (keys_field "xml:lang" h.lang)

section
variable {attrs : Table} (sub : ∀ key ∈ attrs.keys, key ∈ keys)
include sub

theorem readsAsKey : ∀ key ∈ attrs.keys, ReadsAsKey key := by
  have all : ∀ key ∈ keys, IsWord key := by decide
  intro key h
  exact (all key (sub key h)).readsAsKey

theorem labels_eq_nil : labels (Reference.plain attrs) = [] := by
  have all : ∀ key ∈ keys, isDeclaration key ∨ key = "xml:lang" ∨ label? key = none := by
    decide +kernel
  -- The only qualified keys declare a prefix or the language, and neither is plain.
  have unused : uses (Reference.plain attrs) = [] := by
    apply List.filterMap_eq_nil_iff.2
    intro entry h
    have ⟨mem, own⟩ := List.mem_filter.1 h
    rw [Bool.and_eq_true, decide_eq_true_eq, Bool.not_eq_true'] at own
    rcases all entry.1 (sub _ (List.mem_map_of_mem mem)) with h | h | h
    · rw [h] at own
      exact absurd own.1 (by simp)
    · exact absurd h own.2
    · exact h
  unfold labels
  rw [unused]
  rfl

theorem element?_opening {name ns : String} (word : IsWord name) (distinct : attrs.keys.Nodup)
    (hns : Around.namespaceOf [attrs] name = some ns) :
    element? [] (Utf8.encode (written name attrs)) = some ⟨attrs, {
      name := localPart name
      ns
      attrs := Reference.plain attrs
      lang := attrs.get? "xml:lang" }⟩ := by
  unfold element?
  rw [tagName_written word.not_blank, decodeName_encode,
    attributes?_written word.not_blank (readsAsKey sub) distinct]
  dsimp only
  rw [hns, labels_eq_nil sub]
  rfl

end

theorem keys_wrapper (h : Header) :
    h.wrapper.keys.Sublist ["to", "from", "id", "version", "xml:lang", "xmlns", "xmlns:stream"] := by
  unfold wrapper
  rw [Table.keys_append]
  exact h.keys_fields.append (List.Sublist.refl _)

theorem keys_opening (h : Header) :
    h.opening.keys.Sublist ["xmlns", "to", "from", "id", "version", "xml:lang"] :=
  h.keys_fields.cons_cons "xmlns"

theorem known_wrapper (h : Header) : ∀ key ∈ h.wrapper.keys, key ∈ keys := by
  intro key hk
  have all : ∀ key ∈ ["to", "from", "id", "version", "xml:lang", "xmlns", "xmlns:stream"],
      key ∈ keys := by decide
  exact all key (h.keys_wrapper.subset hk)

theorem known_opening (h : Header) : ∀ key ∈ h.opening.keys, key ∈ keys := by
  intro key hk
  have all : ∀ key ∈ ["xmlns", "to", "from", "id", "version", "xml:lang"], key ∈ keys := by decide
  exact all key (h.keys_opening.subset hk)

theorem header_wrapper (h : Header) :
    header h.wrapper = { h.received with defaultNs := some (h.defaultNs.getD Namespace.client) } := by
  unfold header wrapper fields received
  simp [Table.get?_append, get?_field, Table.get?_cons]

theorem header_opening (h : Header) :
    header h.opening = { h.received with defaultNs := some Namespace.framing } := by
  unfold header opening fields received
  simp [Table.get?_append, get?_field, Table.get?_cons]

theorem element?_wrapper (h : Header) :
    ∃ node, element? [] (Utf8.encode (written "stream:stream" h.wrapper)) = some ⟨h.wrapper, node⟩
      ∧ node.name = "stream" ∧ node.ns = Namespace.stream := by
  have word : IsWord "stream:stream" := by decide
  have distinct : h.wrapper.keys.Nodup := h.keys_wrapper.nodup (by decide)
  have ns : Around.namespaceOf [h.wrapper] "stream:stream" = some Namespace.stream := by
    have label : label? "stream:stream" = some "stream" := by decide +kernel
    have key : "xmlns:" ++ "stream" = "xmlns:stream" := by decide +kernel
    have declared : h.wrapper.get? "xmlns:stream" = some Namespace.stream := by
      unfold wrapper fields
      simp [Table.get?_append, get?_field, Table.get?_cons]
    unfold Around.namespaceOf
    rw [label]
    dsimp only
    rw [Around.resolve?, if_neg (by decide), key, Around.nearest, List.findSome?_cons, declared]
  have localName : localPart "stream:stream" = "stream" := by decide +kernel
  exact ⟨_, element?_opening h.known_wrapper word distinct ns, localName, rfl⟩

theorem element?_webSocketOpen (h : Header) :
    ∃ node, element? [] (Utf8.encode (written "open" h.opening)) = some ⟨h.opening, node⟩
      ∧ node.name = "open" ∧ node.ns = Namespace.framing := by
  have word : IsWord "open" := by decide
  have distinct : h.opening.keys.Nodup := h.keys_opening.nodup (by decide)
  have ns : Around.namespaceOf [h.opening] "open" = some Namespace.framing := by
    have label : label? "open" = none := by decide +kernel
    unfold Around.namespaceOf
    rw [label]
    rfl
  have localName : localPart "open" = "open" := by decide +kernel
  exact ⟨_, element?_opening h.known_opening word distinct ns, localName, rfl⟩

end Header
end XmppStream
