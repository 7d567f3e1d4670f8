import ExternalFields.Proofs.Field.Entries
import ExternalFields.Proofs.Field.Occurrence

/-!
# Rendering fields and reading them back

The data of a fields document determines its fields, and fields of such a document can be written
as data and read back without loss.

* `Field.WellFormed`: what reading guarantees at every depth, multi-fields included: every field
  has a name, and no attribute among the others belongs to a typed one.
* `wellFormed_of_ofValue`: reading guarantees it.
* **`ofItems_toValues`**: whatever satisfies it is read back as it was.
-/

namespace ExternalFields

open Yaml

/-- Trees whose fields all have names and no typed attributes among the others, at every depth. -/
inductive Field.WellFormed : List Field → Prop
  | nil : WellFormed []
  | cons {field : Field} {rest : List Field} (named : field.name ≠ [])
      (unknown : ∀ entry ∈ field.attributes, Field.isKnownKey entry.1 = false)
      (multiFields : WellFormed field.multiFields) (below : WellFormed (field.fields.getD []))
      (others : WellFormed rest) : WellFormed (field :: rest)

/-! ## What reading guarantees -/

lemma nameOf_ok {enclosing name : Text} {entries : Entries}
    (named : Field.nameOf enclosing entries = .ok name) : name ≠ [] := by
  rw [Field.nameOf] at named
  split at named
  · exact ne_nil_of_checked named
  · cases named

/-- The attributes that hold no fields are read without those that do. -/
lemma scalarsOf_ok {entries : Entries} {path name : Text} {scalars : Field}
    (read : Field.scalarsOf entries path name = .ok scalars) :
    scalars.name = name ∧ scalars.attributes = Field.otherAttributes entries := by
  simp only [Field.scalarsOf, bind_eq_ok, pure_eq_ok, Except.ok.injEq] at read
  obtain ⟨_, _, _, _, _, _, _, _, _, _, _, _, _, _, rfl⟩ := read
  exact ⟨rfl, rfl⟩

lemma unknown_of_scalarsOf {entries : Entries} {path name : Text} {scalars : Field}
    (read : Field.scalarsOf entries path name = .ok scalars) :
    ∀ entry ∈ scalars.attributes, Field.isKnownKey entry.1 = false := by
  intro entry member
  simp only [(scalarsOf_ok read).2, Field.otherAttributes, List.mem_filter] at member
  simpa using member.2

/-- The fields under a key are those of the first entry that has it; null stands for none. -/
lemma ofEntry_cons (enclosing name : Text) (key value : Value) (rest : Entries) :
    Field.ofEntry enclosing name ((key, value) :: rest)
      = if key.isText name then
          match value with
          | .null => .ok none
          | value => some <$> Field.ofValue enclosing value
        else Field.ofEntry enclosing name rest := by
  cases value <;> rfl

mutual

/-- What a value writes is well formed. -/
lemma wellFormed_of_ofValue : ∀ (value : Value) {enclosing : Text} {fields : List Field},
    Field.ofValue enclosing value = .ok fields → Field.WellFormed fields
  | .null, _, _, h => by
      cases h
      exact .nil
  | .list items _, _, _, h => wellFormed_of_ofItems items h
  | .bool _, _, _, h | .int _, _, _, h | .float _, _, _, h | .text _, _, _, h
  | .binary _, _, _, h | .date .., _, _, h | .timestamp .., _, _, h | .pair .., _, _, h
  | .mapping .., _, _, h | .set .., _, _, h | .endless, _, _, h => by cases h

/-- What a list of values writes is well formed. -/
lemma wellFormed_of_ofItems : ∀ (items : List Value) {enclosing : Text} {fields : List Field},
    Field.ofItems enclosing items = .ok fields → Field.WellFormed fields
  | [], _, _, h => by
      cases h
      exact .nil
  | item :: rest, enclosing, fields, h => by
      simp only [Field.ofItems, bind_eq_ok, pure_eq_ok, Except.ok.injEq] at h
      obtain ⟨first, first_ok, others, others_ok, rfl⟩ := h
      have ih_first := wellFormed_of_ofItem item first_ok
      have ih_others := wellFormed_of_ofItems rest others_ok
      cases ih_first with
      | cons named unknown multiFields below _ =>
          exact .cons named unknown multiFields below ih_others

/-- One field that a value writes is well formed. -/
lemma wellFormed_of_ofItem : ∀ (item : Value) {enclosing : Text} {field : Field},
    Field.ofItem enclosing item = .ok field → Field.WellFormed [field]
  | .mapping entries _, enclosing, field, h => by
      simp only [Field.ofItem, bind_eq_ok, pure_eq_ok, Except.ok.injEq] at h
      obtain ⟨name, name_ok, scalars, scalars_ok, multiFields, multiFields_ok, fields, fields_ok,
        rfl⟩ := h
      have unknown := unknown_of_scalarsOf scalars_ok
      obtain ⟨rfl, -⟩ := scalarsOf_ok scalars_ok
      exact .cons (nameOf_ok name_ok) unknown (wellFormed_of_ofEntry entries multiFields_ok)
        (wellFormed_of_ofEntry entries fields_ok) .nil
  | .null, _, _, h | .list .., _, _, h | .bool _, _, _, h | .int _, _, _, h | .float _, _, _, h
  | .text _, _, _, h | .binary _, _, _, h | .date .., _, _, h | .timestamp .., _, _, h
  | .pair .., _, _, h | .set .., _, _, h | .endless, _, _, h => by cases h

/-- The fields under a key are well formed. -/
lemma wellFormed_of_ofEntry : ∀ (entries : Entries) {enclosing name : Text}
    {fields? : Option (List Field)}, Field.ofEntry enclosing name entries = .ok fields? →
      Field.WellFormed (fields?.getD [])
  | [], _, _, _, h => by
      cases h
      exact .nil
  | (key, value) :: rest, enclosing, name, fields?, h => by
      rw [ofEntry_cons] at h
      split at h
      · split at h
        · cases h
          exact .nil
        · obtain ⟨fields, fields_ok, rfl⟩ := map_eq_ok.mp h
          exact wellFormed_of_ofValue value fields_ok
      · exact wellFormed_of_ofEntry rest h

end

/-! ## Reading back -/

/-- The fields under a key, by the value that a look-up finds there. -/
lemma ofEntry_eq_lookup (enclosing name : Text) : ∀ entries : Entries,
    Field.ofEntry enclosing name entries
      = match Value.lookup name entries with
        | none | some .null => .ok none
        | some value => some <$> Field.ofValue enclosing value
  | [] => rfl
  | (key, value) :: rest => by
      rw [ofEntry_cons, Value.lookup, ofEntry_eq_lookup enclosing name rest]
      split
      · cases value <;> rfl
      · rfl

lemma toValues_isEmpty (fields : List Field) :
    (Field.toValues fields).isEmpty = fields.isEmpty := by
  cases fields <;> rfl

/-- **Well-formed fields are read back** as they were, under any path. -/
theorem ofItems_toValues (fields : List Field) (wellFormed : Field.WellFormed fields) :
    ∀ enclosing, Field.ofItems enclosing (Field.toValues fields) = .ok fields := by
  induction fields using Field.forest_induction with
  | nil => intro _; rfl
  | cons field rest ih_multi ih_below ih_rest =>
      intro enclosing
      cases wellFormed with
      | cons named unknown multiFields below others =>
          have name_read : Field.nameOf enclosing field.entries = .ok field.name := by
            rw [Field.nameOf, lookup_entries unknown (by decide)]
            simpa using named
          have multi_read : Field.ofEntry (FieldPath.join enclosing field.name) "multi_fields"
              field.entries = .ok (if field.multiFields.isEmpty then none
                else some field.multiFields) := by
            rw [ofEntry_eq_lookup, lookup_entries unknown (by decide)]
            have items_read := ih_multi multiFields (FieldPath.join enclosing field.name)
            cases present : field.multiFields with
            | nil => simp +decide
            | cons first others =>
                rw [present] at items_read
                simp +decide [toValues_isEmpty, Field.ofValue, items_read]
          have below_read : Field.ofEntry (FieldPath.join enclosing field.name) "fields"
              field.entries = .ok field.fields := by
            rw [ofEntry_eq_lookup, lookup_entries unknown (by decide)]
            have items_read := ih_below below (FieldPath.join enclosing field.name)
            cases present : field.fields with
            | none => simp +decide
            | some children =>
                rw [present, Option.getD_some] at items_read
                simp +decide [Field.ofValue, items_read]
          have item_read : Field.ofItem enclosing field.toValue = .ok field := by
            have multi_eq : (if field.multiFields.isEmpty then none
                else some field.multiFields).getD [] = field.multiFields := by
              cases field.multiFields <;> rfl
            rw [Field.toValue_eq, Field.ofItem, name_read]
            simp only [ok_bind, scalarsOf_entries unknown, multi_read, below_read, pure_eq_ok,
              multi_eq]
            cases field
            rfl
          rw [Field.toValues, Field.ofItems, item_read, ok_bind, ih_rest others]
          rfl

end ExternalFields
