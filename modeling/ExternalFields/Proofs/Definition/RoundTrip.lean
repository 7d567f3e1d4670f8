import ExternalFields.Proofs.Definition.Places
import ExternalFields.Proofs.Field.Overlaying

/-!
# Definitions as records

A definition that is taken by a field is turned into a field of its own first, which has no entry
for what is empty, and none for the definitions below it.  Rendered, such a field is a record of a
schema document again: reading it gives back the definition, without what stood below it.

Multi-fields are definitions themselves and go the same way, so the proofs follow them down.

* `Definition.withoutFields`: a definition without those below it, its multi-fields included.
* `Concise`: records in which nothing is empty but name and type.
* **`Definition.ofValue_rendered`**: both for all definitions of a document.
-/

namespace ExternalFields.Definition

open Yaml

/-! ## Definitions without fields -/

mutual

/-- A definition without the definitions below it, and so are its multi-fields at every depth. -/
def withoutFields : Definition → Definition
  | ⟨name, type, description, pattern, index, docValues, normalize, multiFields, _⟩ =>
    ⟨name, type, description, pattern, index, docValues, normalize, allWithoutFields multiFields,
      []⟩

/-- Definitions without those below them. -/
def allWithoutFields : List Definition → List Definition
  | [] => []
  | definition :: rest => withoutFields definition :: allWithoutFields rest

end

lemma withoutFields_eq (definition : Definition) :
    definition.withoutFields = { definition with
      multiFields := allWithoutFields definition.multiFields, fields := [] } := by
  cases definition
  rfl

/-- Definitions found below definitions with names have names. -/
lemma named_of_places (definitions : List Definition) :
    ∀ {above : List Text}, Named definitions →
      ∀ place ∈ places above definitions, Named [place.definition] := by
  induction definitions using forest_induction with
  | nil => simp
  | cons definition rest ih_multi ih_below ih_rest =>
      intro above named place member
      cases named with
      | cons name_ne multiFields below others =>
          rw [places_cons, List.mem_cons, List.mem_append, List.mem_append] at member
          rcases member with rfl | (member | member) | member
          · exact .cons name_ne multiFields below .nil
          · exact ih_below below place member
          · exact ih_multi multiFields place member
          · exact ih_rest others place member

/-! ## Entries of rendered definitions -/

/-- The definitions under a key, by the value that a look-up finds there. -/
lemma ofEntry_eq_lookup (enclosing name : Text) : ∀ entries : Entries,
    ofEntry enclosing name entries
      = match Value.lookup name entries with
        | none => .ok []
        | some value => ofValue enclosing value
  | [] => rfl
  | (key, value) :: rest => by
      rw [ofEntry, Value.lookup, ofEntry_eq_lookup enclosing name rest]
      split <;> rfl

/-- A text that is absent if it is empty is read as empty if it is absent. -/
lemma presentText_getD (s : Text) : (Field.presentText s).getD "" = s := by
  rw [Field.presentText]
  split
  · next empty => exact (List.isEmpty_iff.mp empty).symm
  · rfl

lemma ne_nil_of_presentText {s shown : Text} (present : Field.presentText s = some shown) :
    shown ≠ [] := by
  rw [Field.presentText] at present
  split at present
  · cases present
  · next nonempty =>
      cases present
      simpa using nonempty

section

variable (definition : Definition)

/-- The attributes of a rendered definition are read back. -/
lemma scalarsOf_rendered (path : Text) :
    scalarsOf (Field.ofDefinition definition).entries path definition.name
      = .ok { definition with multiFields := [], fields := [] } := by
  have unknown := unknown_ofDefinition definition
  have text : ∀ key value, Value.lookup key (Field.ofDefinition definition).entries
      = value.map .text → Attribute.text? (Field.ofDefinition definition).entries path key
        = .ok value := fun key value => text?_of_lookup path
  have type := text "type" (some definition.type)
    (by rw [lookup_entries unknown (by decide)]; simp +decide [ofDefinition_eq])
  have description := text "description" (Field.presentText definition.description)
    (by rw [lookup_entries unknown (by decide)]; simp +decide [ofDefinition_eq])
  have pattern := text "pattern" (Field.presentText definition.pattern)
    (by rw [lookup_entries unknown (by decide)]; simp +decide [ofDefinition_eq])
  have index : Attribute.flag? (Field.ofDefinition definition).entries path "index"
      = .ok definition.index := flag?_of_lookup path
    (by rw [lookup_entries unknown (by decide)]; simp +decide [ofDefinition_eq])
  have docValues : Attribute.flag? (Field.ofDefinition definition).entries path "doc_values"
      = .ok definition.docValues := flag?_of_lookup path
    (by rw [lookup_entries unknown (by decide)]; simp +decide [ofDefinition_eq])
  have normalize : Attribute.texts (Field.ofDefinition definition).entries path "normalize"
      = .ok definition.normalize := texts_of_lookup path
    (by rw [lookup_entries unknown (by decide)]; simp +decide [ofDefinition_eq])
  rw [scalarsOf, type, description, pattern, index, docValues, normalize]
  simp only [ok_bind, pure_eq_ok, Option.getD_some, presentText_getD]

end

/-! ## Reading back -/

/-- **Rendered definitions are read back** without what stands below them, under any path. -/
lemma ofItems_rendered (definitions : List Definition) :
    Named definitions → ∀ enclosing,
      ofItems enclosing (Field.toValues (Field.ofDefinitions definitions))
        = .ok (allWithoutFields definitions) := by
  induction definitions using forest_induction with
  | nil => exact fun _ _ => rfl
  | cons definition rest ih_multi _ ih_rest =>
      intro named enclosing
      cases named with
      | cons name_ne multiFields _ others =>
          have unknown := unknown_ofDefinition definition
          have name_read : recordName enclosing none (Field.ofDefinition definition).entries
              = .ok definition.name := by
            have found : Value.lookup "name" (Field.ofDefinition definition).entries
                = some (.text definition.name) := by
              rw [lookup_entries unknown (by decide)]
              simp [ofDefinition_eq]
            simp [recordName, found, name_ne]
          have multi_read : ∀ path, ofEntry path "multi_fields"
              (Field.ofDefinition definition).entries
                = .ok (allWithoutFields definition.multiFields) := by
            intro path
            have items_read := ih_multi multiFields path
            rw [ofEntry_eq_lookup, lookup_entries unknown (by decide), ofDefinition_eq]
            cases present : definition.multiFields with
            | nil => simp +decide [Field.ofDefinitions, Field.toValues, allWithoutFields]
            | cons first others =>
                rw [present] at items_read
                simpa +decide [toValues_isEmpty, Field.ofDefinitions, ofValue] using items_read
          have below_read : ∀ path, ofEntry path "fields" (Field.ofDefinition definition).entries
              = .ok [] := by
            intro path
            rw [ofEntry_eq_lookup, lookup_entries unknown (by decide), ofDefinition_eq]
            simp +decide
          rw [Field.ofDefinitions, Field.toValues, ofItems, Field.toValue_eq, ofRecord, name_read]
          simp only [ok_bind, scalarsOf_rendered, multi_read, below_read, pure_eq_ok,
            ih_rest others]
          rw [allWithoutFields, withoutFields_eq]

/-! ## Nothing empty -/

/-- A value that is not null, an empty text or an empty list. -/
def SaysSomething (value : Value) : Prop :=
  value ≠ .null ∧ value ≠ .text "" ∧ ∀ mark, value ≠ .list [] mark

/-- Records in which nothing but name and type is null or empty, and the same below their
multi-fields. -/
inductive Concise : Value → Prop
  | record {entries : Entries} {mark : Mark}
      (present : ∀ entry ∈ entries,
        entry.1 = .text "name" ∨ entry.1 = .text "type" ∨ SaysSomething entry.2)
      (multiFields : ∀ items mark, (.text "multi_fields", .list items mark) ∈ entries →
        ∀ item ∈ items, Concise item) :
      Concise (.mapping entries mark)

/-- Every entry of a rendered definition stands under a typed key, where a look-up finds it. -/
lemma lookup_of_mem_rendered {definition : Definition} {entry : Value × Value}
    (member : entry ∈ (Field.ofDefinition definition).entries) :
    ∃ key ∈ Field.knownKeys, entry.1 = .text key ∧
      Value.lookup key (Field.ofDefinition definition).entries = some entry.2 := by
  have known : Field.isKnownKey entry.1 := by
    simpa using List.filter_eq_nil_iff.mp (otherAttributes_ofDefinition definition) entry member
  obtain ⟨key, key_known, key_eq⟩ := isKnownKey_iff.mp known
  refine ⟨key, key_known, key_eq, (Value.mem_iff_lookup (isMapping_ofDefinition definition)).mp ?_⟩
  rwa [← key_eq]

lemma saysSomething_text {s : Text} {value : Value}
    (shown : (Field.presentText s).map Value.text = some value) : SaysSomething value := by
  obtain ⟨present, present_eq, rfl⟩ := Option.map_eq_some_iff.mp shown
  have nonempty := ne_nil_of_presentText present_eq
  exact ⟨by simp, fun empty => nonempty (Value.text.inj empty), by simp⟩

lemma saysSomething_flag {flag : Option Bool} {value : Value}
    (shown : flag.map Value.bool = some value) : SaysSomething value := by
  obtain ⟨b, -, rfl⟩ := Option.map_eq_some_iff.mp shown
  exact ⟨by simp, by simp, by simp⟩

lemma saysSomething_list {items : List Value} {value : Value}
    (shown : (if !items.isEmpty then some (Value.list items none) else none) = some value) :
    SaysSomething value := by
  split at shown
  · next nonempty =>
      cases shown
      refine ⟨by simp, by simp, fun mark empty => ?_⟩
      cases empty
      simp at nonempty
  · cases shown

/-- Under no key of a rendered definition but name and type stands anything empty. -/
lemma saysSomething_rendered {definition : Definition} {key : Text} {value : Value}
    (known : key ∈ Field.knownKeys)
    (found : Value.lookup key (Field.ofDefinition definition).entries = some value) :
    key = "name" ∨ key = "type" ∨ SaysSomething value := by
  rw [lookup_entries (unknown_ofDefinition definition) known, ofDefinition_eq] at found
  simp only [Field.knownKeys, List.mem_cons, List.not_mem_nil, or_false] at known
  rcases known with rfl | rfl | rfl | rfl | rfl | rfl | rfl | rfl | rfl | rfl
  · exact .inl rfl
  · exact .inr (.inl rfl)
  · simp +decide at found
  · exact .inr (.inr (saysSomething_text (by simpa +decide using found)))
  · exact .inr (.inr (saysSomething_text (by simpa +decide using found)))
  · exact .inr (.inr (saysSomething_flag (by simpa +decide using found)))
  · exact .inr (.inr (saysSomething_flag (by simpa +decide using found)))
  · exact .inr (.inr (@saysSomething_list (definition.normalize.map .text) _
      (by simpa +decide using found)))
  · exact .inr (.inr (saysSomething_list (by simpa +decide using found)))
  · simp +decide at found

/-- **Rendered definitions are concise.** -/
lemma concise_rendered (definitions : List Definition) :
    ∀ item ∈ Field.toValues (Field.ofDefinitions definitions), Concise item := by
  induction definitions using forest_induction with
  | nil => simp [Field.ofDefinitions, Field.toValues]
  | cons definition rest ih_multi _ ih_rest =>
      rw [Field.ofDefinitions, Field.toValues, List.forall_mem_cons]
      refine ⟨?_, ih_rest⟩
      rw [Field.toValue_eq]
      refine .record (fun entry member => ?_) fun items mark member => ?_
      · obtain ⟨key, known, key_eq, found⟩ := lookup_of_mem_rendered member
        rw [key_eq]
        simpa using saysSomething_rendered known found
      · obtain ⟨key, known, key_eq, found⟩ := lookup_of_mem_rendered member
        cases key_eq
        rw [lookup_entries (unknown_ofDefinition definition) known, ofDefinition_eq] at found
        obtain ⟨-, rfl, -⟩ : Field.toValues (Field.ofDefinitions definition.multiFields) ≠ [] ∧
            Field.toValues (Field.ofDefinitions definition.multiFields) = items ∧ none = mark := by
          simpa +decide using found
        exact ih_multi

/-- **Definitions survive as fields and as records.**  Take any definition of a schema document, at
any depth: turned into a field, rendered, and read as a record of a list under any path, it comes
back as it was, but without the definitions below it and below its multi-fields at every depth.  The
record has no entry, besides name and type, whose value is null, an empty text or an empty list, and
neither have those of its multi-fields. -/
theorem ofValue_rendered {data : Value} {enclosing : Text} {definitions : List Definition}
    (read : ofValue enclosing data = .ok definitions) :
    ∀ place ∈ places [] definitions,
      (∀ path, ofValue path (.list [(Field.ofDefinition place.definition).toValue] none)
        = .ok [place.definition.withoutFields]) ∧
      Concise (Field.ofDefinition place.definition).toValue := by
  intro place member
  have named := named_of_places definitions (named_of_ofValue data read) place member
  refine ⟨fun path => ?_, ?_⟩
  · exact ofItems_rendered [place.definition] named path
  · exact concise_rendered [place.definition] _ (List.mem_singleton.mpr rfl)

/-- A document that defines a field below a field, and one below a multi-field. -/
def deepDocument : Value :=
  .list [.mapping [(.text "name", .text "host"), (.text "fields", .list [
    .mapping [(.text "name", .text "name"), (.text "index", .bool false),
      (.text "multi_fields", .list [
        .mapping [(.text "name", .text "text"), (.text "normalize", .list [.text "array"] none),
          (.text "fields", .list [.mapping [(.text "name", .text "raw")] none] none)] none]
            none)] none] none)] none] none

/-- What it defines. -/
def deepDefinitions : List Definition := [
  { name := "host", fields := [
    { name := "name", index := some false, multiFields := [
      { name := "text", normalize := ["array"], fields := [{ name := "raw" }] }] }] }]

/-- All its definitions come back, and that of the field below is as it was but for what stands
below its multi-field. -/
theorem ofValue_rendered_deep :
    ofValue "" deepDocument = .ok deepDefinitions ∧
      (∀ place ∈ places [] deepDefinitions,
        (∀ path, ofValue path (.list [(Field.ofDefinition place.definition).toValue] none)
          = .ok [place.definition.withoutFields]) ∧
        Concise (Field.ofDefinition place.definition).toValue) ∧
      (places [] deepDefinitions).map (fun place => place.definition.withoutFields)
        = [{ name := "host" },
          { name := "name", index := some false, multiFields := [
            { name := "text", normalize := ["array"] }] },
          { name := "text", normalize := ["array"] }, { name := "raw" }] := by
  have read : ofValue "" deepDocument = .ok deepDefinitions := rfl
  exact ⟨read, ofValue_rendered read, rfl⟩

end ExternalFields.Definition
