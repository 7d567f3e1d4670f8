import ExternalFields.Proofs.Field.Documents
import ExternalFields.Proofs.Yaml.Mappings

/-!
# Overlays of mappings

A field that takes a definition is completed attribute by attribute, and each sort of attribute has
its own notion of being set.  On what is rendered there is one notion for all: a key is there or it
is not.  The rendered definition, updated by the rendered field, without the mark and with the
merged type, is the rendered completed field.

Both are mappings, so it takes to compare the values of typed attributes key by key
(`lookup_overlay`) and the other attributes as lists (`otherAttributes_updated`).

* `isMapping_entries`: rendered fields are mappings.
* `perm_of_lookup`: when two mappings have the same entries.
* **`Field.overlay_rendered`**: the two ways of completing a field.
-/

namespace ExternalFields

open Yaml

/-! ## Typed keys and others -/

lemma isKnownKey_iff {key : Value} :
    Field.isKnownKey key ↔ ∃ name ∈ Field.knownKeys, key = .text name := by
  cases key <;> simp [Field.isKnownKey]

/-- Like keys are both typed or both not. -/
lemma isKnownKey_of_sameKey {key other : Value} (same : key.sameKey other) :
    Field.isKnownKey key = Field.isKnownKey other := by
  rw [Bool.eq_iff_iff, isKnownKey_iff, isKnownKey_iff]
  simp only [← Value.isText_iff, Value.isText_of_sameKey same]

/-- Keys of different sorts are different keys. -/
lemma sameKey_eq_false {key other : Value}
    (differs : Field.isKnownKey key ≠ Field.isKnownKey other) : key.sameKey other = false := by
  rw [← Bool.not_eq_true]
  exact fun same => differs (isKnownKey_of_sameKey same)

/-- A relation holds throughout a list if it does among the items of each sort and between items of
different sorts. -/
lemma pairwise_of_filter {α : Type} {R : α → α → Prop} (sort : α → Bool) {items : List α}
    (within : ∀ b, (items.filter (sort · == b)).Pairwise R)
    (between : ∀ item other, sort item ≠ sort other → R item other) : items.Pairwise R := by
  induction items with
  | nil => exact .nil
  | cons item rest ih =>
      refine List.pairwise_cons.mpr ⟨fun other there => ?_, ih fun b => ?_⟩
      · by_cases same : sort item = sort other
        · have first := within (sort item)
          rw [List.filter_cons, if_pos (beq_self_eq_true _), List.pairwise_cons] at first
          exact first.1 other (List.mem_filter.mpr ⟨there, beq_iff_eq.mpr same.symm⟩)
        · exact between item other same
      · exact (within b).sublist ((List.sublist_cons_self item rest).filter _)

/-- **Rendered fields are mappings**, if their other attributes are one. -/
lemma isMapping_entries {field : Field}
    (unknown : ∀ entry ∈ field.attributes, Field.isKnownKey entry.1 = false)
    (mapping : Value.IsMapping field.attributes) : Value.IsMapping field.entries := by
  have typed_differ : (Field.knownKeys.map Value.text).Pairwise
      fun key later => key.sameKey later = false := by decide
  have others_eq : (field.entries.map Prod.fst).filter (fun key => !Field.isKnownKey key)
      = field.attributes.map Prod.fst := by
    rw [← otherAttributes_entries unknown, Field.otherAttributes, List.filter_map]
    rfl
  refine pairwise_of_filter Field.isKnownKey (fun typed => ?_)
    fun key other differs => sameKey_eq_false differs
  cases typed with
  | true => simpa using typed_differ.sublist (typedKeys_entries unknown)
  | false =>
      simp only [beq_false, others_eq]
      exact mapping

/-! ## Mappings with the same entries -/

/-- The typed entries of a mapping are all different. -/
lemma nodup_typed {entries : Entries} (mapping : Value.IsMapping entries) :
    (entries.filter fun entry => Field.isKnownKey entry.1).Nodup := by
  have differ : (entries.filter fun entry => Field.isKnownKey entry.1).Pairwise
      fun entry later => entry.1.sameKey later.1 = false :=
    (List.pairwise_map.mp mapping).sublist List.filter_sublist
  refine differ.imp_of_mem fun {entry other} member _ different same => ?_
  obtain ⟨name, -, name_eq⟩ := isKnownKey_iff.mp (List.mem_filter.mp member).2
  rw [← same, name_eq, Value.sameKey_text] at different
  simp [Value.isText] at different

/-- **Two mappings have the same entries** if they agree on each typed key and have the same other
attributes in the same order. -/
lemma perm_of_lookup {entries entries' : Entries} (mapping : Value.IsMapping entries)
    (mapping' : Value.IsMapping entries')
    (typed : ∀ key ∈ Field.knownKeys, Value.lookup key entries = Value.lookup key entries')
    (others : Field.otherAttributes entries = Field.otherAttributes entries') :
    entries.Perm entries' := by
  have typed_perm : (entries.filter fun entry => Field.isKnownKey entry.1).Perm
      (entries'.filter fun entry => Field.isKnownKey entry.1) := by
    rw [List.perm_ext_iff_of_nodup (nodup_typed mapping) (nodup_typed mapping')]
    rintro ⟨key, value⟩
    rw [List.mem_filter, List.mem_filter]
    refine and_congr_left fun known => ?_
    obtain ⟨name, name_known, rfl⟩ := isKnownKey_iff.mp known
    rw [Value.mem_iff_lookup mapping, Value.mem_iff_lookup mapping', typed name name_known]
  have split := List.filter_append_perm (fun entry : Value × Value => Field.isKnownKey entry.1)
  have parts_perm : ((entries.filter fun entry => Field.isKnownKey entry.1)
        ++ Field.otherAttributes entries).Perm
      ((entries'.filter fun entry => Field.isKnownKey entry.1)
        ++ Field.otherAttributes entries') := by
    rw [others]
    exact typed_perm.append_right _
  exact (split entries).symm.trans (parts_perm.trans (split entries'))

/-! ## Other attributes of an update -/

/-- Typed entries are put apart from the other attributes. -/
lemma otherAttributes_put {key : Value} (known : Field.isKnownKey key) (value : Value)
    (entries : Entries) :
    Field.otherAttributes (Value.put key value entries) = Field.otherAttributes entries := by
  rw [Field.otherAttributes, Field.otherAttributes]
  induction entries with
  | nil => simp [Value.put, known]
  | cons entry rest ih =>
      rw [Value.put]
      by_cases same : entry.1.sameKey key
      · have entry_known := (isKnownKey_of_sameKey same).trans known
        simp [same, entry_known]
      · simp only [same, Bool.false_eq_true, if_false, List.filter_cons, ih]

/-- An update adds the other attributes of a mapping at the end, if there are none under the same
keys. -/
lemma otherAttributes_updated {new : Entries} (mapping : Value.IsMapping new) :
    ∀ {entries : Entries},
      (∀ key ∈ entries.map Prod.fst, ∀ entry ∈ new, Field.isKnownKey entry.1 = false →
        key.sameKey entry.1 = false) →
      Field.otherAttributes (Value.updated entries new)
        = Field.otherAttributes entries ++ Field.otherAttributes new := by
  induction new with
  | nil =>
      intro entries _
      simp [Value.updated, Field.otherAttributes]
  | cons entry rest ih =>
      intro entries apart
      have pairwise := mapping
      rw [Value.IsMapping, List.map_cons, List.pairwise_cons] at pairwise
      have apart_put : ∀ key ∈ (Value.put entry.1 entry.2 entries).map Prod.fst, ∀ other ∈ rest,
          Field.isKnownKey other.1 = false → key.sameKey other.1 = false := by
        intro key member other there unknown
        have old : key ∈ entries.map Prod.fst → key.sameKey other.1 = false :=
          fun h => apart key h other (List.mem_cons_of_mem entry there) unknown
        rw [Value.keys_put] at member
        split at member
        · exact old member
        · rcases List.mem_append.mp member with h | h
          · exact old h
          · rw [List.mem_singleton.mp h]
            exact pairwise.1 other.1 (List.mem_map_of_mem there)
      have step := ih (List.Pairwise.of_cons mapping) apart_put
      rw [Value.updated] at step
      rw [Value.updated, List.foldl_cons, step]
      cases known : Field.isKnownKey entry.1 with
      | true =>
          rw [otherAttributes_put known]
          simp [Field.otherAttributes, known]
      | false =>
          have new_key : ∀ other ∈ entries, other.1.sameKey entry.1 = false := fun other there =>
            apart other.1 (List.mem_map_of_mem there) entry List.mem_cons_self known
          rw [Value.put_of_new entry.2 new_key]
          simp [Field.otherAttributes, known]

/-! ## Rendered definitions -/

section

variable (definition : Definition)

/-- A definition has no attributes but the typed ones. -/
lemma unknown_ofDefinition :
    ∀ entry ∈ (Field.ofDefinition definition).attributes, Field.isKnownKey entry.1 = false := by
  simp [ofDefinition_eq]

lemma otherAttributes_ofDefinition :
    Field.otherAttributes (Field.ofDefinition definition).entries = [] := by
  rw [otherAttributes_entries (unknown_ofDefinition definition), ofDefinition_eq]

lemma isMapping_ofDefinition : Value.IsMapping (Field.ofDefinition definition).entries :=
  isMapping_entries (unknown_ofDefinition definition) (by simp [ofDefinition_eq, Value.IsMapping])

end

/-! ## Completing a field -/

/-- Of two lists of which the first is preferred, what is shown is what is shown of the first one,
or of the other one if that is nothing. -/
lemma preferred_shown {α : Type} (render : List α → List Value)
    (render_nil : ∀ items, render items = [] ↔ items = []) (own imported : List α) :
    (if render (Field.preferred own imported) = [] then none
      else some (Value.list (render (Field.preferred own imported)) none))
      = (if render own = [] then none else some (Value.list (render own) none)).or
        (if render imported = [] then none else some (Value.list (render imported) none)) := by
  rw [Field.preferred]
  cases own with
  | nil => simp [render_nil]
  | cons first others => simp [render_nil]

section

variable (definition : Definition) {field : Field}
  (unknown : ∀ entry ∈ field.attributes, Field.isKnownKey entry.1 = false)

include unknown

/-- **The typed attributes of a completed field**: those of the field, and otherwise those of the
definition, apart from mark and type. -/
lemma lookup_overlay {key : Text} (known : key ∈ Field.knownKeys) :
    Value.lookup key (field.overlay definition).entries
      = if key = "type" then some (.text (Field.mergedType definition.type field.type))
        else if key = "external" then none
        else (Value.lookup key field.entries).or
          (Value.lookup key (Field.ofDefinition definition).entries) := by
  have own := lookup_entries unknown known
  have imported := lookup_entries (unknown_ofDefinition definition) known
  have completed := @lookup_entries (field.overlay definition) unknown _ known
  rw [own, imported, completed]
  simp only [ofDefinition_eq, Field.overlay]
  simp only [Field.knownKeys, List.mem_cons, List.not_mem_nil, or_false] at known
  rcases known with rfl | rfl | rfl | rfl | rfl | rfl | rfl | rfl | rfl | rfl
  · simp +decide
  · simp +decide
  · simp +decide
  · simp +decide [Option.map_or]
  · simp +decide [Option.map_or]
  · simp +decide [Option.map_or]
  · simp +decide [Option.map_or]
  · simpa +decide using preferred_shown (List.map Value.text) (by simp)
      field.normalize definition.normalize
  · have shown_nil : ∀ fields, Field.toValues fields = [] ↔ fields = [] := fun fields => by
      rw [← List.isEmpty_iff, toValues_isEmpty, List.isEmpty_iff]
    simpa +decide using preferred_shown Field.toValues shown_nil field.multiFields
      (Field.ofDefinitions definition.multiFields)
  · simp +decide

/-- The update of a rendered definition by a rendered field, without the mark and with the merged
type, says the same under each typed key as the rendered completed field. -/
lemma lookup_overlay_updated (mapping : Value.IsMapping field.attributes) {key : Text}
    (known : key ∈ Field.knownKeys) :
    Value.lookup key (field.overlay definition).entries
      = Value.lookup key (Value.put (.text "type")
          (.text (Field.mergedType definition.type field.type))
          (Value.without "external"
            (Value.updated (Field.ofDefinition definition).entries field.entries))) := by
  rw [lookup_overlay definition unknown known, Value.lookup_put, Value.lookup_without,
    Value.lookup_updated key (isMapping_entries unknown mapping)]
  simp only [Value.isText, beq_iff_eq, eq_comm (a := key) (b := "type")]

/-- The same update keeps the other attributes of the field, of which the definition has none. -/
lemma otherAttributes_overlay_updated (mapping : Value.IsMapping field.attributes) :
    Field.otherAttributes (Value.put (.text "type")
        (.text (Field.mergedType definition.type field.type))
        (Value.without "external"
          (Value.updated (Field.ofDefinition definition).entries field.entries)))
      = field.attributes := by
  have imported_known : ∀ key ∈ (Field.ofDefinition definition).entries.map Prod.fst,
      Field.isKnownKey key := by
    simpa [Field.otherAttributes, List.filter_eq_nil_iff] using
      otherAttributes_ofDefinition definition
  have unmarked_eq : ∀ entries, Field.otherAttributes (Value.without "external" entries)
      = Field.otherAttributes entries := by
    intro entries
    rw [Field.otherAttributes, Field.otherAttributes, Value.without, List.filter_filter]
    refine List.filter_congr fun entry _ => ?_
    cases external : entry.1.isText "external" with
    | false => simp
    | true => rw [Value.isText_iff.mp external]; decide
  rw [otherAttributes_put (by decide), unmarked_eq,
    otherAttributes_updated (isMapping_entries unknown mapping),
    otherAttributes_ofDefinition, otherAttributes_entries unknown, List.nil_append]
  intro key member entry _ other_unknown
  exact sameKey_eq_false (by rw [imported_known key member, other_unknown]; decide)

end

/-- **Completing a field is an overlay of mappings.**  Let the other attributes of a field be a
mapping without typed keys.  What is rendered of the field completed by a definition has the same
entries as what is rendered of the definition, updated by what is rendered of the field, without the
mark and with the merged type.  So under every other typed key it has the value of the field if that
has one, be it false or an empty text, otherwise that of the definition if that has one, and
otherwise none; and name, fields below and other attributes, in their order, are those of the
field. -/
theorem Field.overlay_rendered (definition : Definition) {field : Field}
    (unknown : ∀ entry ∈ field.attributes, Field.isKnownKey entry.1 = false)
    (mapping : Value.IsMapping field.attributes) :
    ∃ imported own completed,
      (Field.ofDefinition definition).toValue = .mapping imported none ∧
      field.toValue = .mapping own none ∧
      (field.overlay definition).toValue = .mapping completed none ∧
      Value.IsMapping completed ∧
      completed.Perm (Value.put (.text "type") (.text (Field.mergedType definition.type field.type))
        (Value.without "external" (Value.updated imported own))) ∧
      (∀ key ∈ Field.knownKeys, key ≠ "type" → key ≠ "external" →
        Value.lookup key completed = (Value.lookup key own).or (Value.lookup key imported)) ∧
      Value.lookup "type" completed = some (.text (Field.mergedType definition.type field.type)) ∧
      Value.lookup "external" completed = none ∧
      Value.lookup "name" completed = some (.text field.name) ∧
      Value.lookup "fields" completed
        = field.fields.map (fun fields => .list (Field.toValues fields) none) ∧
      Field.otherAttributes completed = field.attributes := by
  have completed_mapping : Value.IsMapping (field.overlay definition).entries :=
    isMapping_entries unknown mapping
  have completed_others : Field.otherAttributes (field.overlay definition).entries
      = field.attributes := @otherAttributes_entries (field.overlay definition) unknown
  refine ⟨_, _, _, Field.toValue_eq _, Field.toValue_eq _, Field.toValue_eq _, completed_mapping,
    ?_, fun key known no_type no_mark => ?_, ?_, ?_, ?_, ?_, completed_others⟩
  · refine perm_of_lookup completed_mapping ?_
      (fun key known => lookup_overlay_updated definition unknown mapping known) ?_
    · exact (((isMapping_ofDefinition definition).updated _).without _).put _ _
    · rw [completed_others, otherAttributes_overlay_updated definition unknown mapping]
  · rw [lookup_overlay definition unknown known, if_neg no_type, if_neg no_mark]
  · rw [lookup_overlay definition unknown (by decide), if_pos rfl]
  · rw [lookup_overlay definition unknown (by decide), if_neg (by decide), if_pos rfl]
  · rw [@lookup_entries (field.overlay definition) unknown _ (by decide)]
    simp +decide [Field.overlay]
  · rw [@lookup_entries (field.overlay definition) unknown _ (by decide)]
    simp +decide [Field.overlay]

/-! ## An example -/

/-- The definition of the names of hosts. -/
def nameDefinition : Definition where
  name := "host.name"
  type := "keyword"
  description := "Name of the host."
  index := some true
  docValues := some true
  normalize := ["array"]

/-- A local field that says less in places, and more in others. -/
def nameField : Field where
  name := "name"
  type := some "constant_keyword"
  external := some "ecs"
  description := some ""
  index := some false
  attributes := [(.text "value", .text "web"), (.int 1, .null)]
  fields := some []

/-- What is set locally wins, be it empty or false; the rest is that of the definition. -/
theorem Field.overlay_rendered_name :
    (∀ entry ∈ nameField.attributes, Field.isKnownKey entry.1 = false) ∧
      Value.IsMapping nameField.attributes ∧
      (nameField.overlay nameDefinition).toValue = .mapping [
        (.text "name", .text "name"), (.text "type", .text "constant_keyword"),
        (.text "description", .text ""), (.text "index", .bool false),
        (.text "doc_values", .bool true), (.text "normalize", .list [.text "array"] none),
        (.text "value", .text "web"), (.int 1, .null), (.text "fields", .list [] none)] none ∧
      ∃ imported own completed,
        (Field.ofDefinition nameDefinition).toValue = .mapping imported none ∧
        nameField.toValue = .mapping own none ∧
        (nameField.overlay nameDefinition).toValue = .mapping completed none ∧
        completed.Perm (Value.put (.text "type") (.text "constant_keyword")
          (Value.without "external" (Value.updated imported own))) := by
  have unknown : ∀ entry ∈ nameField.attributes, Field.isKnownKey entry.1 = false := by decide
  have mapping : Value.IsMapping nameField.attributes := by decide
  obtain ⟨imported, own, completed, imported_eq, own_eq, completed_eq, -, same, -⟩ :=
    Field.overlay_rendered nameDefinition unknown mapping
  exact ⟨unknown, mapping, rfl, imported, own, completed, imported_eq, own_eq, completed_eq, same⟩

end ExternalFields
