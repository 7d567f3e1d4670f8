import ExternalFields.Field.Reading
import ExternalFields.Proofs.Results
import Mathlib.Data.List.Basic

/-!
# Entries of rendered fields

A rendered field is a mapping that holds its typed attributes under their keys, and the others as
they are.  This file says what a look-up in it finds, provided that no other attribute stands under
the key of a typed one, and with it what the readers of the single attributes return.

* `Field.entries`: the entries of a rendered field, with `Field.toValue_eq`.
* `lookup_entries_name`, `lookup_entries_type`, ...: the value under each key.
* `scalarsOf_entries`: reading back the attributes that hold no fields.
-/

namespace ExternalFields

open Yaml

/-! ## Looking up keys -/

/-- A look-up goes through a list of entries from the front. -/
lemma lookup_append (key : Text) : ∀ entries others : Entries,
    Value.lookup key (entries ++ others) = (Value.lookup key entries).or (Value.lookup key others)
  | [], _ => rfl
  | (other, value) :: entries, others => by
      rw [List.cons_append, Value.lookup, Value.lookup, lookup_append key entries others]
      split <;> rfl

lemma lookup_textEntry (key other : Text) (value : Option Text) :
    Value.lookup key (Field.textEntry other value)
      = if other == key then value.map Value.text else none := by
  cases value <;> simp [Field.textEntry, Value.lookup, Value.isText]

lemma lookup_flagEntry (key other : Text) (value : Option Bool) :
    Value.lookup key (Field.flagEntry other value)
      = if other == key then value.map Value.bool else none := by
  cases value <;> simp [Field.flagEntry, Value.lookup, Value.isText]

lemma lookup_listEntry (key other : Text) (items : List Value) :
    Value.lookup key (Field.listEntry other items)
      = if other == key && !items.isEmpty then some (.list items none) else none := by
  cases items <;> simp [Field.listEntry, Value.lookup, Value.isText]

lemma lookup_childrenEntry (key : Text) (fields? : Option (List Field)) :
    Value.lookup key (Field.childrenEntry fields?)
      = if "fields" == key then fields?.map fun fields => .list (Field.toValues fields) none
        else none := by
  cases fields? <;> simp [Field.childrenEntry, Value.lookup, Value.isText]

/-- Attributes that are not typed are not found under the key of a typed one. -/
lemma lookup_eq_none_of_known {key : Text} (known : key ∈ Field.knownKeys) :
    ∀ {entries : Entries}, (∀ entry ∈ entries, Field.isKnownKey entry.1 = false) →
      Value.lookup key entries = none
  | [], _ => rfl
  | (other, value) :: entries, unknown => by
      have other_unknown : Field.isKnownKey other = false := unknown _ (List.mem_cons_self ..)
      have differs : other.isText key = false := by
        cases other with
        | text s =>
            simp only [Field.isKnownKey, List.contains_eq_mem, decide_eq_false_iff_not]
              at other_unknown
            simp only [Value.isText, beq_eq_false_iff_ne, ne_eq]
            rintro rfl
            exact other_unknown known
        | _ => rfl
      rw [Value.lookup, differs]
      exact lookup_eq_none_of_known known fun entry h => unknown entry (List.mem_cons_of_mem _ h)

/-! ## A rendered field -/

/-- The entries of a rendered field. -/
def Field.entries (field : Field) : Entries :=
  field.scalarEntries ++ Field.listEntry "multi_fields" (Field.toValues field.multiFields)
    ++ field.attributes ++ Field.childrenEntry field.fields

lemma Field.toValue_eq (field : Field) : field.toValue = .mapping field.entries none := by
  cases field
  rfl

/-- **The value under the key of a typed attribute**: each key is asked for in turn, and those of
other attributes are no such key. -/
lemma lookup_entries {field : Field}
    (unknown : ∀ entry ∈ field.attributes, Field.isKnownKey entry.1 = false) {key : Text}
    (known : key ∈ Field.knownKeys) :
    Value.lookup key field.entries
      = (((((((((if "name" == key then some (Value.text field.name) else none).or
          (if "type" == key then field.type.map .text else none)).or
          (if "external" == key then field.external.map .text else none)).or
          (if "description" == key then field.description.map .text else none)).or
          (if "pattern" == key then field.pattern.map .text else none)).or
          (if "index" == key then field.index.map .bool else none)).or
          (if "doc_values" == key then field.docValues.map .bool else none)).or
          (if "normalize" == key && !(field.normalize.map Value.text).isEmpty then
            some (.list (field.normalize.map .text) none) else none)).or
          (if "multi_fields" == key && !(Field.toValues field.multiFields).isEmpty then
            some (.list (Field.toValues field.multiFields) none) else none)).or
          (if "fields" == key then field.fields.map fun fields => .list (Field.toValues fields) none
            else none) := by
  have name_entry : Value.lookup key [(Value.text "name", Value.text field.name)]
      = if "name" == key then some (Value.text field.name) else none := rfl
  rw [Field.entries, Field.scalarEntries, ← List.singleton_append]
  simp only [lookup_append, lookup_textEntry, lookup_flagEntry, lookup_listEntry,
    lookup_childrenEntry, lookup_eq_none_of_known known unknown, name_entry, Option.or_none,
    Option.or_assoc]

/-! ## Reading single attributes back -/

lemma text?_of_lookup {entries : Entries} {key : Text} {value : Option Text} (path : Text)
    (found : Value.lookup key entries = value.map .text) :
    Attribute.text? entries path key = .ok value := by
  cases value <;> simp [Attribute.text?, found]

lemma flag?_of_lookup {entries : Entries} {key : Text} {value : Option Bool} (path : Text)
    (found : Value.lookup key entries = value.map .bool) :
    Attribute.flag? entries path key = .ok value := by
  cases value <;> simp [Attribute.flag?, found]

lemma allTexts?_map_text : ∀ strings : List Text,
    Attribute.allTexts? (strings.map .text) = some strings
  | [] => rfl
  | s :: strings => by
      rw [List.map_cons, Attribute.allTexts?, allTexts?_map_text strings]
      rfl

lemma texts_of_lookup {entries : Entries} {key : Text} {strings : List Text} (path : Text)
    (found : Value.lookup key entries
      = if !(strings.map Value.text).isEmpty then some (.list (strings.map .text) none)
        else none) :
    Attribute.texts entries path key = .ok strings := by
  cases strings with
  | nil => simp [Attribute.texts, found]
  | cons s strings =>
      rw [Attribute.texts, found]
      simp only [List.map_cons, List.isEmpty_cons, Bool.not_false, ↓reduceIte]
      rw [← List.map_cons, allTexts?_map_text]

section

variable {field : Field}
  (unknown : ∀ entry ∈ field.attributes, Field.isKnownKey entry.1 = false)

include unknown

/-- The other attributes are what is left of a rendered field without the typed ones. -/
lemma otherAttributes_entries : Field.otherAttributes field.entries = field.attributes := by
  have kept : field.attributes.filter (fun entry => !Field.isKnownKey entry.1)
      = field.attributes := by
    rw [List.filter_eq_self]
    intro entry member
    rw [unknown entry member]
    rfl
  have text : ∀ key value, key ∈ Field.knownKeys →
      (Field.textEntry key value).filter (fun entry => !Field.isKnownKey entry.1) = [] := by
    intro key value known
    cases value <;> simp [Field.textEntry, Field.isKnownKey, known]
  have flag : ∀ key value, key ∈ Field.knownKeys →
      (Field.flagEntry key value).filter (fun entry => !Field.isKnownKey entry.1) = [] := by
    intro key value known
    cases value <;> simp [Field.flagEntry, Field.isKnownKey, known]
  have list : ∀ key items, key ∈ Field.knownKeys →
      (Field.listEntry key items).filter (fun entry => !Field.isKnownKey entry.1) = [] := by
    intro key items known
    cases items <;> simp [Field.listEntry, Field.isKnownKey, known]
  have children : (Field.childrenEntry field.fields).filter
      (fun entry => !Field.isKnownKey entry.1) = [] := by
    cases field.fields <;> rfl
  have name : ([(Value.text "name", Value.text field.name)] : Entries).filter
      (fun entry => !Field.isKnownKey entry.1) = [] := rfl
  rw [Field.otherAttributes, Field.entries, Field.scalarEntries, ← List.singleton_append]
  simp only [List.filter_append, name, text "type" _ (by decide), text "external" _ (by decide),
    text "description" _ (by decide), text "pattern" _ (by decide), flag "index" _ (by decide),
    flag "doc_values" _ (by decide), list "normalize" _ (by decide),
    list "multi_fields" _ (by decide), children, kept, List.nil_append, List.append_nil]

/-- **Reading back the attributes** of a rendered field that hold no fields. -/
lemma scalarsOf_entries (path : Text) :
    Field.scalarsOf field.entries path field.name
      = .ok { field with multiFields := [], fields := none } := by
  have type : Attribute.text? field.entries path "type" = .ok field.type :=
    text?_of_lookup path (by rw [lookup_entries unknown (by decide)]; simp +decide)
  have external : Attribute.text? field.entries path "external" = .ok field.external :=
    text?_of_lookup path (by rw [lookup_entries unknown (by decide)]; simp +decide)
  have description : Attribute.text? field.entries path "description" = .ok field.description :=
    text?_of_lookup path (by rw [lookup_entries unknown (by decide)]; simp +decide)
  have pattern : Attribute.text? field.entries path "pattern" = .ok field.pattern :=
    text?_of_lookup path (by rw [lookup_entries unknown (by decide)]; simp +decide)
  have index : Attribute.flag? field.entries path "index" = .ok field.index :=
    flag?_of_lookup path (by rw [lookup_entries unknown (by decide)]; simp +decide)
  have docValues : Attribute.flag? field.entries path "doc_values" = .ok field.docValues :=
    flag?_of_lookup path (by rw [lookup_entries unknown (by decide)]; simp +decide)
  have normalize : Attribute.texts field.entries path "normalize" = .ok field.normalize :=
    texts_of_lookup path (by rw [lookup_entries unknown (by decide)]; simp +decide)
  rw [Field.scalarsOf, type, external, description, pattern, index, docValues, normalize]
  simp only [ok_bind, pure_eq_ok, otherAttributes_entries unknown]

end

end ExternalFields
