import ExternalFields.Proofs.Definition.Grammar
import ExternalFields.Proofs.Field.Documents

/-!
# The two readers of records

Fields and definitions are written alike, but each has a reader of its own.  Read as definitions, a
document may have mappings where fields are always lists, and the marks of its records say nothing.
Nothing else sets the readers apart: a document is read as fields exactly if it is read as
definitions and has neither, and the definitions are then the fields without what only fields have.

What fields are read of is also read as definitions, which follows the reader of fields.  For the
converse, the places that reading comes to are described from above, starting at the whole document.

* `Field.toDefinition`: what a field says of its definition.
* `Field.Reached`, `Field.ReachedRecord`: the values and the records that reading comes to.
* **`Field.ofValue_projection`**: the readers agree, and what they fail with.
* **`Field.ofValue_unreported`**: data that holds itself is not reported by either of them.
-/

namespace ExternalFields.Field

open Yaml Attribute Definition

/-! ## Projection -/

mutual

/-- What a field says of its definition.  Texts that are absent are empty, and so are fields; the
mark and the other attributes are left out. -/
def toDefinition : Field → Definition
  | ⟨name, type, _, description, pattern, index, docValues, normalize, multiFields, _, fields⟩ => {
    name
    type := type.getD ""
    description := description.getD ""
    pattern := pattern.getD ""
    index, docValues, normalize
    multiFields := toDefinitions multiFields
    fields := childDefinitions fields }

/-- What fields say of their definitions. -/
def toDefinitions : List Field → List Definition
  | [] => []
  | field :: rest => toDefinition field :: toDefinitions rest

/-- What the fields below a field say of their definitions. -/
def childDefinitions : Option (List Field) → List Definition
  | none => []
  | some fields => toDefinitions fields

end

lemma toDefinition_eq (field : Field) : field.toDefinition = {
    name := field.name
    type := field.type.getD ""
    description := field.description.getD ""
    pattern := field.pattern.getD ""
    index := field.index, docValues := field.docValues, normalize := field.normalize
    multiFields := toDefinitions field.multiFields
    fields := toDefinitions (field.fields.getD []) } := by
  obtain ⟨_, _, _, _, _, _, _, _, _, _, fields⟩ := field
  cases fields <;> rfl

/-! ## Names and attributes -/

lemma nameOf_ok_iff {enclosing name : Text} {entries : Entries} :
    nameOf enclosing entries = .ok name ↔
      Value.lookup "name" entries = some (.text name) ∧ name ≠ [] := by
  refine ⟨fun named => ⟨lookup_name_of_nameOf named, nameOf_ok named⟩, ?_⟩
  rintro ⟨found, named⟩
  simp [nameOf, found, named]

section

variable {entries : Entries} {path name : Text}

/-- The attributes of a field are read exactly if they have the right types, the mark included. -/
lemma scalarsOf_ok_iff : (∃ scalars, scalarsOf entries path name = .ok scalars) ↔
    IsTyped entries ∧ Allows IsText (Value.lookup "external" entries) := by
  have typed : (∃ scalars, Definition.scalarsOf entries path name = .ok scalars)
      ↔ IsTyped entries := Definition.scalarsOf_ok_iff
  rw [← typed]
  simp only [scalarsOf, Definition.scalarsOf, exists_bind_eq_ok, pure_eq_ok, Except.ok.injEq,
    exists_eq', and_true, exists_and_right, text?_ok_iff]
  tauto

lemma scalarsOf_toDefinition {scalars : Field} (read : scalarsOf entries path name = .ok scalars) :
    Definition.scalarsOf entries path name = .ok scalars.toDefinition := by
  simp only [scalarsOf, bind_eq_ok, pure_eq_ok, Except.ok.injEq] at read
  obtain ⟨type, type_read, external, -, description, description_read, pattern, pattern_read,
    index, index_read, docValues, docValues_read, normalize, normalize_read, rfl⟩ := read
  rw [Definition.scalarsOf, type_read, description_read, pattern_read, index_read, docValues_read,
    normalize_read]
  rfl

end

/-! ## Fields are definitions -/

mutual

/-- **What is read as fields is read as definitions**, and these are what the fields say. -/
lemma ofValue_toDefinitions : ∀ (value : Value) {enclosing : Text} {fields : List Field},
    ofValue enclosing value = .ok fields →
      Definition.ofValue enclosing value = .ok (toDefinitions fields)
  | .null, _, _, h => by
      cases h
      rfl
  | .list items _, _, _, h => ofItems_toDefinitions items h
  | .bool _, _, _, h | .int _, _, _, h | .float _, _, _, h | .text _, _, _, h
  | .binary _, _, _, h | .date .., _, _, h | .timestamp .., _, _, h | .pair .., _, _, h
  | .mapping .., _, _, h | .set .., _, _, h | .endless, _, _, h => by cases h

lemma ofItems_toDefinitions : ∀ (items : List Value) {enclosing : Text} {fields : List Field},
    ofItems enclosing items = .ok fields →
      Definition.ofItems enclosing items = .ok (toDefinitions fields)
  | [], _, _, h => by
      cases h
      rfl
  | item :: rest, _, _, h => by
      simp only [ofItems, bind_eq_ok, pure_eq_ok, Except.ok.injEq] at h
      obtain ⟨first, first_ok, others, others_ok, rfl⟩ := h
      rw [Definition.ofItems, ofItem_toDefinition item first_ok,
        ofItems_toDefinitions rest others_ok]
      rfl

lemma ofItem_toDefinition : ∀ (item : Value) {enclosing : Text} {field : Field},
    ofItem enclosing item = .ok field →
      ofRecord enclosing none item = .ok field.toDefinition
  | .mapping entries _, enclosing, field, h => by
      simp only [ofItem, bind_eq_ok, pure_eq_ok, Except.ok.injEq] at h
      obtain ⟨name, name_ok, scalars, scalars_ok, multiFields, multiFields_ok, fields, fields_ok,
        rfl⟩ := h
      simp only [ofRecord, recordName_none.mpr (nameOf_ok_iff.mp name_ok),
        scalarsOf_toDefinition scalars_ok, ofEntry_toDefinitions entries multiFields_ok,
        ofEntry_toDefinitions entries fields_ok, ok_bind, pure_eq_ok, toDefinition_eq]
  | .null, _, _, h | .list .., _, _, h | .bool _, _, _, h | .int _, _, _, h | .float _, _, _, h
  | .text _, _, _, h | .binary _, _, _, h | .date .., _, _, h | .timestamp .., _, _, h
  | .pair .., _, _, h | .set .., _, _, h | .endless, _, _, h => by cases h

lemma ofEntry_toDefinitions : ∀ (entries : Entries) {enclosing name : Text}
    {fields? : Option (List Field)}, ofEntry enclosing name entries = .ok fields? →
      Definition.ofEntry enclosing name entries = .ok (toDefinitions (fields?.getD []))
  | [], _, _, _, h => by
      cases h
      rfl
  | (key, value) :: rest, _, _, _, h => by
      rw [ofEntry_cons] at h
      rw [Definition.ofEntry]
      split at h
      · next here =>
          rw [if_pos here]
          split at h
          · cases h
            rfl
          · obtain ⟨fields, fields_ok, rfl⟩ := map_eq_ok.mp h
            exact ofValue_toDefinitions value fields_ok
      · next elsewhere =>
          rw [if_neg elsewhere]
          exact ofEntry_toDefinitions rest h

end

/-! ## What reading comes to -/

section

variable (raw : Value)

mutual

/-- The values in which reading looks for records: the whole, and what the records that it comes to
hold under `multi_fields` and `fields`. -/
inductive Reached : Value → Prop
  | whole : Reached raw
  | under {entries : Entries} {key : Text} {value : Value} (record : ReachedRecord entries)
      (nested : key = "multi_fields" ∨ key = "fields")
      (found : Value.lookup key entries = some value) : Reached value

/-- The records that reading comes to. -/
inductive ReachedRecord : Entries → Prop
  | item {items : List Value} {entries : Entries} {mark own : Mark}
      (list : Reached (.list items mark)) (member : .mapping entries own ∈ items) :
      ReachedRecord entries
  | entry {records entries : Entries} {key : Value} {mark own : Mark}
      (mapping : Reached (.mapping records mark))
      (member : (key, .mapping entries own) ∈ records) : ReachedRecord entries

end

end

/-- Data in the place of fields: a list, or null. -/
inductive IsFieldList : Value → Prop
  | null : IsFieldList .null
  | list {items : List Value} {mark : Mark} : IsFieldList (.list items mark)

/-- Reading comes to lists only, and to records whose marks are texts, if they have any. -/
structure IsOfFields (raw : Value) : Prop where
  lists : ∀ value, Reached raw value → IsFieldList value
  marks : ∀ entries, ReachedRecord raw entries → Allows IsText (Value.lookup "external" entries)

section

variable {enclosing : Text} {entries : Entries}

lemma isFieldList_of_ofValue {value : Value} {fields : List Field}
    (read : ofValue enclosing value = .ok fields) : IsFieldList value := by
  cases value with
  | null => exact .null
  | list items mark => exact .list
  | _ => cases read

lemma ofItem_of_mem {items : List Value} {fields : List Field} {item : Value}
    (read : ofItems enclosing items = .ok fields) (member : item ∈ items) :
    ∃ field, ofItem enclosing item = .ok field := by
  induction items generalizing fields with
  | nil => cases member
  | cons head rest ih =>
      simp only [ofItems, bind_eq_ok] at read
      obtain ⟨first, first_ok, others, others_ok, -⟩ := read
      rcases List.mem_cons.mp member with rfl | there
      · exact ⟨first, first_ok⟩
      · exact ih others_ok there

/-- What is found where the fields under a key are read is read itself. -/
lemma ofValue_of_ofEntry {key : Text} {value : Value} {fields? : Option (List Field)}
    (read : ofEntry enclosing key entries = .ok fields?)
    (found : Value.lookup key entries = some value) :
    ∃ fields, ofValue enclosing value = .ok fields := by
  rw [ofEntry_eq_lookup, found] at read
  split at read
  · next absent => cases absent
  · next null =>
      cases null
      exact ⟨[], rfl⟩
  · next here =>
      cases here
      obtain ⟨fields, fields_ok, -⟩ := map_eq_ok.mp read
      exact ⟨fields, fields_ok⟩

/-- A record that is read has a mark that is a text, if any, and what it holds is read as well. -/
lemma ofItem_ok {mark : Mark} {field : Field}
    (read : ofItem enclosing (.mapping entries mark) = .ok field) :
    Allows IsText (Value.lookup "external" entries) ∧
      ∀ key : Text, key = "multi_fields" ∨ key = "fields" →
        ∃ path fields?, ofEntry path key entries = .ok fields? := by
  simp only [ofItem, bind_eq_ok] at read
  obtain ⟨name, -, scalars, scalars_ok, multiFields, multiFields_ok, fields, fields_ok, -⟩ := read
  refine ⟨(scalarsOf_ok_iff.mp ⟨scalars, scalars_ok⟩).2, ?_⟩
  rintro key (rfl | rfl)
  · exact ⟨_, _, multiFields_ok⟩
  · exact ⟨_, _, fields_ok⟩

variable {raw : Value} {fields : List Field}

mutual

/-- Whatever reading comes to is read as fields, if the whole is. -/
lemma ofValue_of_reached (raw_ok : ofValue enclosing raw = .ok fields) :
    ∀ {value : Value}, Reached raw value → ∃ path fields, ofValue path value = .ok fields
  | _, .whole => ⟨enclosing, fields, raw_ok⟩
  | _, .under record nested found => by
      obtain ⟨path, mark, field, field_ok⟩ := ofItem_of_reached raw_ok record
      obtain ⟨below, fields?, fields_ok⟩ := (ofItem_ok field_ok).2 _ nested
      exact ⟨below, ofValue_of_ofEntry fields_ok found⟩

lemma ofItem_of_reached (raw_ok : ofValue enclosing raw = .ok fields) :
    ∀ {record : Entries}, ReachedRecord raw record →
      ∃ path mark field, ofItem path (.mapping record mark) = .ok field
  | _, .item list member => by
      obtain ⟨path, fields, fields_ok⟩ := ofValue_of_reached raw_ok list
      exact ⟨path, _, ofItem_of_mem fields_ok member⟩
  | _, .entry mapping _ => by
      obtain ⟨path, fields, ⟨⟩⟩ := ofValue_of_reached raw_ok mapping

end

lemma isOfFields_of_ofValue (raw_ok : ofValue enclosing raw = .ok fields) : IsOfFields raw where
  lists value reached := by
    obtain ⟨path, fields, fields_ok⟩ := ofValue_of_reached raw_ok reached
    exact isFieldList_of_ofValue fields_ok
  marks record reached := by
    obtain ⟨path, mark, field, field_ok⟩ := ofItem_of_reached raw_ok reached
    exact (ofItem_ok field_ok).1

end

/-! ## Definitions are fields -/

section

variable {raw : Value}

mutual

/-- **What is read as definitions is read as fields**, where reading comes to fields only. -/
lemma ofValue_of_definitions (isOfFields : IsOfFields raw) : ∀ (value : Value)
    {enclosing : Text} {definitions : List Definition}, Reached raw value →
      Definition.ofValue enclosing value = .ok definitions →
        ∃ fields, ofValue enclosing value = .ok fields
  | .null, _, _, _, _ => ⟨[], rfl⟩
  | .list items mark, _, _, reached, h =>
      ofItems_of_definitions isOfFields items (fun _ _ => .item reached) h
  | .mapping entries mark, _, _, reached, _ => nomatch isOfFields.lists _ reached
  | .bool _, _, _, _, h | .int _, _, _, _, h | .float _, _, _, _, h | .text _, _, _, _, h
  | .binary _, _, _, _, h | .date .., _, _, _, h | .timestamp .., _, _, _, h
  | .pair .., _, _, _, h | .set .., _, _, _, h | .endless, _, _, _, h => by cases h

lemma ofItems_of_definitions (isOfFields : IsOfFields raw) : ∀ (items : List Value)
    {enclosing : Text} {definitions : List Definition},
    (∀ entries mark, .mapping entries mark ∈ items → ReachedRecord raw entries) →
      Definition.ofItems enclosing items = .ok definitions →
        ∃ fields, ofItems enclosing items = .ok fields
  | [], _, _, _, _ => ⟨[], rfl⟩
  | item :: rest, enclosing, _, reached, h => by
      simp only [Definition.ofItems, bind_eq_ok] at h
      obtain ⟨first, first_ok, others, others_ok, -⟩ := h
      have reached_here : ∀ entries mark, item = .mapping entries mark →
          ReachedRecord raw entries := by
        rintro entries mark rfl
        exact reached entries mark List.mem_cons_self
      obtain ⟨field, field_ok⟩ := ofItem_of_definition isOfFields item reached_here first_ok
      obtain ⟨fields, fields_ok⟩ := ofItems_of_definitions isOfFields rest
        (fun entries mark there => reached entries mark (List.mem_cons_of_mem item there)) others_ok
      exact ⟨field :: fields, by rw [ofItems, field_ok, fields_ok]; rfl⟩

lemma ofItem_of_definition (isOfFields : IsOfFields raw) : ∀ (item : Value)
    {enclosing : Text} {definition : Definition},
    (∀ entries mark, item = .mapping entries mark → ReachedRecord raw entries) →
      ofRecord enclosing none item = .ok definition →
        ∃ field, ofItem enclosing item = .ok field
  | .mapping entries mark, enclosing, _, reached, h => by
      have record := reached entries mark rfl
      simp only [ofRecord, bind_eq_ok] at h
      obtain ⟨name, name_ok, scalars, scalars_ok, multiFields, multiFields_ok, fields, fields_ok,
        -⟩ := h
      have named : nameOf enclosing entries = .ok name :=
        nameOf_ok_iff.mpr (recordName_none.mp name_ok)
      have typed := Definition.scalarsOf_ok_iff.mp ⟨scalars, scalars_ok⟩
      obtain ⟨own, own_ok⟩ : ∃ own, scalarsOf entries (FieldPath.join enclosing name) name
          = .ok own := scalarsOf_ok_iff.mpr ⟨typed, isOfFields.marks entries record⟩
      obtain ⟨multi, multi_ok⟩ := ofEntry_of_definitions isOfFields entries
        (fun _ found => .under record (.inl rfl) found) multiFields_ok
      obtain ⟨below, below_ok⟩ := ofEntry_of_definitions isOfFields entries
        (fun _ found => .under record (.inr rfl) found) fields_ok
      simp only [ofItem, named, own_ok, multi_ok, below_ok, ok_bind]
      exact ⟨_, rfl⟩
  | .null, _, _, _, h | .list .., _, _, _, h | .bool _, _, _, _, h | .int _, _, _, _, h
  | .float _, _, _, _, h | .text _, _, _, _, h | .binary _, _, _, _, h | .date .., _, _, _, h
  | .timestamp .., _, _, _, h | .pair .., _, _, _, h | .set .., _, _, _, h
  | .endless, _, _, _, h => by cases h

lemma ofEntry_of_definitions (isOfFields : IsOfFields raw) : ∀ (entries : Entries)
    {enclosing key : Text} {definitions : List Definition},
    (∀ value, Value.lookup key entries = some value → Reached raw value) →
      Definition.ofEntry enclosing key entries = .ok definitions →
        ∃ fields?, ofEntry enclosing key entries = .ok fields?
  | [], _, _, _, _, _ => ⟨none, rfl⟩
  | (here, value) :: rest, _, key, _, reached, h => by
      rw [Value.lookup] at reached
      rw [Definition.ofEntry] at h
      rw [ofEntry_cons]
      split at h
      · next same =>
          rw [if_pos same] at reached ⊢
          obtain ⟨fields, fields_ok⟩ :=
            ofValue_of_definitions isOfFields value (reached value rfl) h
          split
          · exact ⟨none, rfl⟩
          · rw [fields_ok]
            exact ⟨some fields, rfl⟩
      · next elsewhere =>
          rw [if_neg elsewhere] at reached ⊢
          exact ofEntry_of_definitions isOfFields rest reached h

end

end

/-! ## The two readers -/

/-- **The readers of fields and of definitions agree.**  Data is read as fields exactly if it is
read as definitions and reading comes only to lists, and to records whose marks are texts.  The
definitions are then what the fields say of them, at every depth.  Each of the readers fails with an
error of form, unless the data holds itself; and keys, which only definitions may have, can be
numbers of too many digits. -/
theorem ofValue_projection (enclosing : Text) (raw : Value) :
    ((∃ fields, ofValue enclosing raw = .ok fields) ↔
      (∃ definitions, Definition.ofValue enclosing raw = .ok definitions) ∧ IsOfFields raw) ∧
    (∀ fields definitions, ofValue enclosing raw = .ok fields →
      Definition.ofValue enclosing raw = .ok definitions → definitions = toDefinitions fields) ∧
    FailsOnly (FailsBy raw) (ofValue enclosing raw) ∧
    FailsOnly (Definition.FailsBy raw) (Definition.ofValue enclosing raw) := by
  refine ⟨⟨?_, ?_⟩, fun fields definitions fields_ok definitions_ok => ?_,
    ofValue_failsOnly raw .self, Definition.ofValue_failsOnly raw .self⟩
  · rintro ⟨fields, fields_ok⟩
    exact ⟨⟨_, ofValue_toDefinitions raw fields_ok⟩, isOfFields_of_ofValue fields_ok⟩
  · rintro ⟨⟨definitions, definitions_ok⟩, isOfFields⟩
    exact ofValue_of_definitions isOfFields raw .whole definitions_ok
  · exact Except.ok.inj (definitions_ok.symm.trans (ofValue_toDefinitions raw fields_ok))

/-- A document of fields, with a mark, an attribute of no type, and fields that are null. -/
def markedDocument : Value :=
  .list [record [("name", .text "host"), ("external", .text "ecs"), ("level", .text "core"),
    ("multi_fields", .list [record [("name", .text "text"), ("fields", .null)]] none),
    ("fields", .list [record [("name", .text "ip"), ("type", .text "ip")]] none)]] none

/-- What it defines. -/
def markedDefinitions : List Definition := [
  { name := "host", type := "", multiFields := [{ name := "text", type := "" }],
    fields := [{ name := "ip", type := "ip" }] }]

/-- The same record under its name, and with a mark that is no text. -/
def keyedDocument : Value :=
  .mapping [(.text "host", record [("external", .bool true)])] none

/-- The marked document is read by both readers.  The keyed one defines a record, but reading comes
to a mapping there. -/
theorem ofValue_projection_host :
    (∃ fields, ofValue "" markedDocument = .ok fields ∧ toDefinitions fields = markedDefinitions)
      ∧ Definition.ofValue "" markedDocument = .ok markedDefinitions
      ∧ IsOfFields markedDocument
      ∧ Definition.ofValue "" keyedDocument = .ok [{ name := "host", type := "" }]
      ∧ ¬ IsOfFields keyedDocument := by
  obtain ⟨reads, agree, -⟩ := ofValue_projection "" markedDocument
  obtain ⟨reads_keyed, -⟩ := ofValue_projection "" keyedDocument
  have definitions_ok : Definition.ofValue "" markedDocument = .ok markedDefinitions := rfl
  refine ⟨⟨_, rfl, ?_⟩, definitions_ok, (reads.mp ⟨_, rfl⟩).2, rfl, fun isOfFields => ?_⟩
  · exact (agree _ _ rfl definitions_ok).symm
  · obtain ⟨fields, ⟨⟩⟩ := reads_keyed.mpr ⟨⟨_, rfl⟩, isOfFields⟩

lemma ofValue_circle (levels : Nat) : ∀ enclosing,
    ofValue enclosing (circular levels) = .error (.unusable .tooDeep) := by
  induction levels with
  | zero => exact fun _ => rfl
  | succ levels ih =>
      intro enclosing
      have item : ofItem enclosing
          (.mapping [(.text "name", .text "x"), (.text "fields", circular levels)] (some 1))
            = ofEntry (FieldPath.join enclosing "x") "fields"
                [(.text "name", .text "x"), (.text "fields", circular levels)]
              >>= fun fields => .ok { name := "x", fields } := rfl
      have below : ofEntry (FieldPath.join enclosing "x") "fields"
          [(.text "name", .text "x"), (.text "fields", circular levels)]
            = .error (.unusable .tooDeep) := by
        have read := congrArg (some <$> ·) (ih (FieldPath.join enclosing "x"))
        cases levels <;> exact read
      rw [circular, ofValue, ofItems, item, below]
      rfl

/-- **Data that holds itself is reported by neither reader**: following it comes to an end with an
error that is none of form. -/
theorem ofValue_unreported :
    ofValue "" (circular 495) = .error (.unusable .tooDeep) ∧
      Definition.ofValue "" (circular 495) = .error (.unusable .tooDeep) ∧
      ¬ (DocumentError.unusable .tooDeep).IsOfForm :=
  ⟨ofValue_circle 495 "", Definition.ofValue_circle 495 "", nofun⟩

end ExternalFields.Field
