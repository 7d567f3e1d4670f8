import ExternalFields.Proofs.Injection.Idempotence

/-!
# Fields documents and their rendering

Reading a fields document and rendering what was read loses nothing but entries that say nothing: a
typed attribute that is null, and empty lists of normalizers and of multi-fields.  `ShownItems` says
so of the data alone, key by key, and does not mention fields; it is shown by following the reader
through the document (`shown_of_ofItems`), with the value that it found under each key.

* `ShownRecord`: what a rendered mapping holds of the mapping that was read.
* `shown_of_ofItem`: a field is shown as its mapping was.
* **`documents_survive`**: well-formed fields, which are those that documents write, are read back
  as they were; and what is rendered of a document is what it says.
-/

namespace ExternalFields

open Yaml

/-! ## What is shown of a document -/

/-- The keys of typed attributes whose values are not repeated as they are. -/
def listKeys : List Text := ["normalize", "multi_fields", "fields"]

mutual

/-- The mappings that show the items of a list, one for each and in order. -/
inductive ShownItems : List Value → List Value → Prop
  | nil : ShownItems [] []
  | cons {entries shown : Entries} {mark : Mark} {items others : List Value}
      (record : ShownRecord entries shown) (rest : ShownItems items others) :
      ShownItems (.mapping entries mark :: items) (.mapping shown none :: others)

/-- The entries that show those of a mapping: the same other attributes in the same order, and each
typed attribute at most once, in a fixed order, with what is shown of the value under its key. -/
inductive ShownRecord : Entries → Entries → Prop
  | intro {entries shown : Entries}
      (others : Field.otherAttributes shown = Field.otherAttributes entries)
      (once : ((shown.map Prod.fst).filter Field.isKnownKey).Sublist (Field.knownKeys.map .text))
      (typed : ∀ key ∈ Field.knownKeys,
        ShownUnder key (Value.lookup key entries) (Value.lookup key shown)) :
      ShownRecord entries shown

/-- What is shown under the key of a typed attribute, given the value under the same key.  Lists
are new ones; that of the fields below a field is shown even if it is empty. -/
inductive ShownUnder : Text → Option Value → Option Value → Prop
  | absent {key : Text} : ShownUnder key none none
  | null {key : Text} : ShownUnder key (some .null) none
  | scalar {key : Text} {value : Value} (no_list : key ∉ listKeys) (present : value ≠ .null) :
      ShownUnder key (some value) (some value)
  | empty {key : Text} {mark : Mark} (optional : key = "normalize" ∨ key = "multi_fields") :
      ShownUnder key (some (.list [] mark)) none
  | normalize {strings : List Text} {mark : Mark} (nonempty : strings ≠ []) :
      ShownUnder "normalize" (some (.list (strings.map .text) mark))
        (some (.list (strings.map .text) none))
  | multiFields {items shown : List Value} {mark : Mark} (nonempty : items ≠ [])
      (records : ShownItems items shown) :
      ShownUnder "multi_fields" (some (.list items mark)) (some (.list shown none))
  | fields {items shown : List Value} {mark : Mark} (records : ShownItems items shown) :
      ShownUnder "fields" (some (.list items mark)) (some (.list shown none))

end

/-! ## Typed attributes -/

/-- A text is shown as it was read. -/
lemma shownUnder_text? {entries : Entries} {path key : Text} {value : Option Text}
    (no_list : key ∉ listKeys) (read : Attribute.text? entries path key = .ok value) :
    ShownUnder key (Value.lookup key entries) (value.map .text) := by
  rw [Attribute.text?] at read
  split at read
  · next found => cases read; rw [found]; exact .absent
  · next found => cases read; rw [found]; exact .null
  · next found => cases read; rw [found]; exact .scalar no_list (by simp)
  · cases read

lemma shownUnder_flag? {entries : Entries} {path key : Text} {value : Option Bool}
    (no_list : key ∉ listKeys) (read : Attribute.flag? entries path key = .ok value) :
    ShownUnder key (Value.lookup key entries) (value.map .bool) := by
  rw [Attribute.flag?] at read
  split at read
  · next found => cases read; rw [found]; exact .absent
  · next found => cases read; rw [found]; exact .null
  · next found => cases read; rw [found]; exact .scalar no_list (by simp)
  · cases read

lemma map_text_of_allTexts? : ∀ {items : List Value} {strings : List Text},
    Attribute.allTexts? items = some strings → items = strings.map .text
  | [], _, read => by
      cases read
      rfl
  | .text s :: rest, strings, read => by
      rw [Attribute.allTexts?, Option.map_eq_some_iff] at read
      obtain ⟨others, others_read, rfl⟩ := read
      rw [List.map_cons, map_text_of_allTexts? others_read]

/-- Normalizers are shown if there are any. -/
lemma shownUnder_texts {entries : Entries} {path : Text} {strings : List Text}
    (read : Attribute.texts entries path "normalize" = .ok strings) :
    ShownUnder "normalize" (Value.lookup "normalize" entries)
      (if !(strings.map Value.text).isEmpty then some (.list (strings.map .text) none)
        else none) := by
  rw [Attribute.texts] at read
  split at read
  · next found => cases read; rw [found]; exact .absent
  · next found => cases read; rw [found]; exact .null
  · next items mark found =>
      split at read
      · next all_texts =>
          cases read
          rw [found, map_text_of_allTexts? all_texts]
          cases strings with
          | nil => exact .empty (.inl rfl)
          | cons s rest => exact .normalize (List.cons_ne_nil s rest)
      · cases read
  · cases read

/-! ## Lists of fields -/

/-- What the fields that were read under a key show of the value there. -/
inductive ShownChildren : Option Value → Option (List Field) → Prop
  | absent : ShownChildren none none
  | null : ShownChildren (some .null) none
  | list {items : List Value} {mark : Mark} {fields : List Field}
      (records : ShownItems items (Field.toValues fields)) :
      ShownChildren (some (.list items mark)) (some fields)

lemma ShownChildren.multiFields {value? : Option Value} {fields? : Option (List Field)}
    (children : ShownChildren value? fields?) :
    ShownUnder "multi_fields" value?
      (if !(Field.toValues (fields?.getD [])).isEmpty then
        some (.list (Field.toValues (fields?.getD [])) none) else none) := by
  cases children with
  | absent => exact .absent
  | null => exact .null
  | @list items mark fields records =>
      cases records_eq : Field.toValues fields with
      | nil =>
          rw [records_eq] at records
          cases records
          rw [Option.getD_some, records_eq]
          exact .empty (.inr rfl)
      | cons first others =>
          rw [records_eq] at records
          rw [Option.getD_some, records_eq]
          refine .multiFields ?_ records
          rintro rfl
          cases records

lemma ShownChildren.fields {value? : Option Value} {fields? : Option (List Field)}
    (children : ShownChildren value? fields?) :
    ShownUnder "fields" value?
      (fields?.map fun fields => .list (Field.toValues fields) none) := by
  cases children with
  | absent => exact .absent
  | null => exact .null
  | list records => exact .fields records

/-- The typed keys of a rendered field stand in their fixed order, none of them twice. -/
lemma typedKeys_entries {field : Field}
    (unknown : ∀ entry ∈ field.attributes, Field.isKnownKey entry.1 = false) :
    ((field.entries.map Prod.fst).filter Field.isKnownKey).Sublist
      (Field.knownKeys.map .text) := by
  have text : ∀ key value,
      ((Field.textEntry key value).map Prod.fst).Sublist [Value.text key] := by
    intro key value
    cases value <;> simp [Field.textEntry]
  have flag : ∀ key value,
      ((Field.flagEntry key value).map Prod.fst).Sublist [Value.text key] := by
    intro key value
    cases value <;> simp [Field.flagEntry]
  have list : ∀ key items,
      ((Field.listEntry key items).map Prod.fst).Sublist [Value.text key] := by
    intro key items
    cases items <;> simp [Field.listEntry]
  have children : ((Field.childrenEntry field.fields).map Prod.fst).Sublist
      [Value.text "fields"] := by
    cases field.fields <;> simp [Field.childrenEntry]
  have others : (field.attributes.map Prod.fst).filter Field.isKnownKey = [] := by
    simpa using unknown
  have scalars : (field.scalarEntries.map Prod.fst).Sublist
      ([Value.text "name"] ++ ([Value.text "type"] ++ [Value.text "external"]
        ++ [Value.text "description"] ++ [Value.text "pattern"] ++ [Value.text "index"]
        ++ [Value.text "doc_values"] ++ [Value.text "normalize"])) := by
    rw [Field.scalarEntries, List.map_cons]
    refine .cons_cons _ ?_
    simp only [List.map_append]
    exact ((((((text _ _).append (text _ _)).append (text _ _)).append (text _ _)).append
      (flag _ _)).append (flag _ _)).append (list _ _)
  rw [Field.entries]
  simp only [List.map_append, List.filter_append, others, List.append_nil]
  exact ((List.filter_sublist.trans scalars).append (List.filter_sublist.trans (list _ _))).append
    (List.filter_sublist.trans children)

/-- A field shows a mapping if its attributes and its lists of fields do. -/
lemma shownRecord_entries {entries : Entries} {path name : Text} {scalars : Field}
    {multiFields fields : Option (List Field)}
    (name_found : Value.lookup "name" entries = some (.text name))
    (read : Field.scalarsOf entries path name = .ok scalars)
    (multi : ShownChildren (Value.lookup "multi_fields" entries) multiFields)
    (below : ShownChildren (Value.lookup "fields" entries) fields) :
    ShownRecord entries
      ({ scalars with multiFields := multiFields.getD [], fields } : Field).entries := by
  have unknown := unknown_of_scalarsOf read
  simp only [Field.scalarsOf, bind_eq_ok, pure_eq_ok, Except.ok.injEq] at read
  obtain ⟨type, type_read, external, external_read, description, description_read, pattern,
    pattern_read, index, index_read, docValues, docValues_read, normalize, normalize_read, rfl⟩ :=
    read
  refine .intro (otherAttributes_entries unknown) (typedKeys_entries unknown) fun key known => ?_
  dsimp only at unknown ⊢
  rw [lookup_entries unknown known]
  simp only [Field.knownKeys, List.mem_cons, List.not_mem_nil, or_false] at known
  rcases known with rfl | rfl | rfl | rfl | rfl | rfl | rfl | rfl | rfl | rfl
  · rw [name_found]
    exact .scalar (by decide) (by simp)
  · simpa +decide using shownUnder_text? (by decide) type_read
  · simpa +decide using shownUnder_text? (by decide) external_read
  · simpa +decide using shownUnder_text? (by decide) description_read
  · simpa +decide using shownUnder_text? (by decide) pattern_read
  · simpa +decide using shownUnder_flag? (by decide) index_read
  · simpa +decide using shownUnder_flag? (by decide) docValues_read
  · simpa +decide using shownUnder_texts normalize_read
  · simpa +decide using multi.multiFields
  · simpa +decide using below.fields

/-! ## Following the reader -/

lemma lookup_name_of_nameOf {enclosing name : Text} {entries : Entries}
    (named : Field.nameOf enclosing entries = .ok name) :
    Value.lookup "name" entries = some (.text name) := by
  rw [Field.nameOf] at named
  split at named
  · next found =>
      split at named <;> cases named
      exact found
  · cases named

mutual

/-- Fields that a value writes show it, unless it is null. -/
lemma shown_of_ofValue : ∀ (value : Value) {enclosing : Text} {fields : List Field},
    Field.ofValue enclosing value = .ok fields → value = .null ∨
      ∃ items mark, value = .list items mark ∧ ShownItems items (Field.toValues fields)
  | .null, _, _, _ => .inl rfl
  | .list items mark, _, _, h => .inr ⟨items, mark, rfl, shown_of_ofItems items h⟩
  | .bool _, _, _, h | .int _, _, _, h | .float _, _, _, h | .text _, _, _, h
  | .binary _, _, _, h | .date .., _, _, h | .timestamp .., _, _, h | .pair .., _, _, h
  | .mapping .., _, _, h | .set .., _, _, h | .endless, _, _, h => by cases h

lemma shown_of_ofItems : ∀ (items : List Value) {enclosing : Text} {fields : List Field},
    Field.ofItems enclosing items = .ok fields → ShownItems items (Field.toValues fields)
  | [], _, _, h => by
      cases h
      exact .nil
  | item :: rest, enclosing, fields, h => by
      simp only [Field.ofItems, bind_eq_ok, pure_eq_ok, Except.ok.injEq] at h
      obtain ⟨first, first_ok, others, others_ok, rfl⟩ := h
      obtain ⟨entries, mark, rfl, record⟩ := shown_of_ofItem item first_ok
      rw [Field.toValues, Field.toValue_eq]
      exact .cons record (shown_of_ofItems rest others_ok)

lemma shown_of_ofItem : ∀ (item : Value) {enclosing : Text} {field : Field},
    Field.ofItem enclosing item = .ok field →
      ∃ entries mark, item = .mapping entries mark ∧ ShownRecord entries field.entries
  | .mapping entries mark, enclosing, field, h => by
      simp only [Field.ofItem, bind_eq_ok, pure_eq_ok, Except.ok.injEq] at h
      obtain ⟨name, name_ok, scalars, scalars_ok, multiFields, multiFields_ok, fields, fields_ok,
        rfl⟩ := h
      exact ⟨entries, mark, rfl, shownRecord_entries (lookup_name_of_nameOf name_ok) scalars_ok
        (shown_of_ofEntry entries multiFields_ok) (shown_of_ofEntry entries fields_ok)⟩
  | .null, _, _, h | .list .., _, _, h | .bool _, _, _, h | .int _, _, _, h | .float _, _, _, h
  | .text _, _, _, h | .binary _, _, _, h | .date .., _, _, h | .timestamp .., _, _, h
  | .pair .., _, _, h | .set .., _, _, h | .endless, _, _, h => by cases h

lemma shown_of_ofEntry : ∀ (entries : Entries) {enclosing name : Text}
    {fields? : Option (List Field)}, Field.ofEntry enclosing name entries = .ok fields? →
      ShownChildren (Value.lookup name entries) fields?
  | [], _, _, _, h => by
      cases h
      exact .absent
  | (key, value) :: rest, enclosing, name, fields?, h => by
      rw [ofEntry_cons] at h
      rw [Value.lookup]
      split at h
      · next here =>
          rw [if_pos here]
          split at h
          · cases h
            exact .null
          · next not_null =>
              obtain ⟨fields, fields_ok, rfl⟩ := map_eq_ok.mp h
              rcases shown_of_ofValue value fields_ok with rfl | ⟨items, mark, rfl, records⟩
              · exact absurd rfl not_null
              · exact .list records
      · next elsewhere =>
          rw [if_neg elsewhere]
          exact shown_of_ofEntry rest h

end

/-! ## There and back -/

/-- **Fields documents survive reading and rendering.**  Rendered fields are read back as they were
exactly if they are well formed at every depth, that is, if all have names and no other attribute
stands under the key of a typed one.  The fields of every document are, and so is what comes of them
by injection with parsed schemas.  Conversely, what is rendered of the fields of a document shows
the document: under every key the value that was read, anew for the fields below, and the other
attributes in their order; only null and empty lists of normalizers and multi-fields are gone. -/
theorem documents_survive (enclosing : Text) :
    (∀ fields, Field.ofValue enclosing (.list (Field.toValues fields) none) = .ok fields ↔
      Field.WellFormed fields) ∧
    (∀ data fields, Field.ofValue enclosing data = .ok fields → Field.WellFormed fields) ∧
    (∀ registered data fields result, (∀ registry, registered = some registry → registry.Parsed) →
      Field.ofValue enclosing data = .ok fields → inject registered fields = .ok result →
        Field.WellFormed result.fields) ∧
    ∀ items mark fields, Field.ofValue enclosing (.list items mark) = .ok fields →
      ShownItems items (Field.toValues fields) := by
  refine ⟨fun fields => ⟨wellFormed_of_ofValue _, fun wellFormed => ?_⟩,
    fun data fields => wellFormed_of_ofValue data, ?_, fun items mark fields => ?_⟩
  · exact ofItems_toValues fields wellFormed enclosing
  · intro registered data fields result parsed read injected
    exact wellFormed_of_injects parsed (injects_of_injectAt fields (inject_ok.mp injected))
      (wellFormed_of_ofValue data read)
  · exact shown_of_ofItems items

/-! ## An example -/

/-- A field with entries that say nothing, and with an empty list of fields. -/
def sparseRecord : Value :=
  record [("type", .null), ("fields", .list [] none), ("level", .text "core"),
    ("normalize", .list [] none), ("index", .bool false), ("name", .text "host")]

/-- What it says. -/
def sparseField : Field where
  name := "host"
  index := some false
  attributes := [(.text "level", .text "core")]
  fields := some []

/-- The list of fields is kept, and the truth value; null and the empty list of normalizers go. -/
theorem documents_survive_sparse :
    Field.ofValue "" (.list [sparseRecord] none) = .ok [sparseField] ∧
      Field.ofValue "" (.list (Field.toValues [sparseField]) none) = .ok [sparseField] ∧
      ShownItems [sparseRecord] (Field.toValues [sparseField]) ∧
      Field.toValues [sparseField] = [record [("name", .text "host"), ("index", .bool false),
        ("level", .text "core"), ("fields", .list [] none)]] := by
  obtain ⟨read_back, wellFormed, -, shown⟩ := documents_survive ""
  refine ⟨rfl, ?_, ?_, rfl⟩
  · exact (read_back _).mpr (wellFormed (.list [sparseRecord] none) _ rfl)
  · exact shown [sparseRecord] none _ rfl

end ExternalFields
