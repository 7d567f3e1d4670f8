import ExternalFields.Definition.Basic
import ExternalFields.Definition.Reading
import ExternalFields.Proofs.Results

/-!
# Definitions with names

Every definition that a schema document writes has a name, at every depth, multi-fields included,
and so has every definition found among them.

* `Definition.forest_induction`: induction over lists of definitions.
* `Definition.Named`: all of a list of definitions have names.
* `named_of_ofValue`: those of a document do.
* `named_of_findAmong`: a definition that is found does.
-/

namespace ExternalFields

open Yaml

/-- **Induction over lists of definitions**: the first one contributes its multi-fields and the
definitions below it. -/
theorem Definition.forest_induction {motive : List Definition → Prop} (nil : motive [])
    (cons : ∀ definition rest, motive definition.multiFields → motive definition.fields →
      motive rest → motive (definition :: rest)) :
    ∀ definitions, motive definitions
  | [] => nil
  | definition :: rest =>
      cons definition rest (forest_induction nil cons definition.multiFields)
        (forest_induction nil cons definition.fields) (forest_induction nil cons rest)
termination_by definitions => sizeOf definitions
decreasing_by
  all_goals
    cases definition
    simp only [List.cons.sizeOf_spec, Definition.mk.sizeOf_spec]
    omega

/-- Definitions that all have names, at every depth. -/
inductive Definition.Named : List Definition → Prop
  | nil : Named []
  | cons {definition : Definition} {rest : List Definition} (named : definition.name ≠ [])
      (multiFields : Named definition.multiFields) (below : Named definition.fields)
      (others : Named rest) : Named (definition :: rest)

namespace Definition

lemma Named.append {definitions others : List Definition} (named : Named definitions)
    (others_named : Named others) : Named (definitions ++ others) := by
  induction named with
  | nil => exact others_named
  | cons named multiFields below _ _ _ ih => exact .cons named multiFields below ih

/-! ## Definitions of a document -/

lemma recordName_ok {enclosing name : Text} {key? : Option Text} {entries : Entries}
    (named : recordName enclosing key? entries = .ok name) : name ≠ [] :=
  ne_nil_of_checked named

lemma scalarsOf_name {entries : Entries} {path name : Text} {scalars : Definition}
    (read : scalarsOf entries path name = .ok scalars) : scalars.name = name := by
  simp only [scalarsOf, bind_eq_ok, pure_eq_ok, Except.ok.injEq] at read
  obtain ⟨_, _, _, _, _, _, _, _, _, _, _, _, rfl⟩ := read
  rfl

mutual

/-- The definitions that a value writes have names. -/
lemma named_of_ofValue : ∀ (value : Value) {enclosing : Text} {definitions : List Definition},
    ofValue enclosing value = .ok definitions → Named definitions
  | .null, _, _, h => by
      cases h
      exact .nil
  | .mapping entries _, _, _, h => named_of_ofEntries entries h
  | .list items _, _, _, h => named_of_ofItems items h
  | .bool _, _, _, h | .int _, _, _, h | .float _, _, _, h | .text _, _, _, h
  | .binary _, _, _, h | .date .., _, _, h | .timestamp .., _, _, h | .pair .., _, _, h
  | .set .., _, _, h | .endless, _, _, h => by cases h

/-- The definitions of a mapping have names. -/
lemma named_of_ofEntries : ∀ (entries : Entries) {enclosing : Text}
    {definitions : List Definition},
    ofEntries enclosing entries = .ok definitions → Named definitions
  | [], _, _, h => by
      cases h
      exact .nil
  | (key, record) :: rest, enclosing, definitions, h => by
      rw [ofEntries] at h
      split at h
      · simp only [bind_eq_ok, pure_eq_ok, Except.ok.injEq] at h
        obtain ⟨first, first_ok, others, others_ok, rfl⟩ := h
        exact (named_of_ofRootSet record first_ok).append (named_of_ofEntries rest others_ok)
      · simp only [bind_eq_ok, map_eq_ok, pure_eq_ok, Except.ok.injEq] at h
        obtain ⟨_, _, first, ⟨definition, definition_ok, rfl⟩, others, others_ok, rfl⟩ := h
        exact (named_of_ofRecord record definition_ok).append (named_of_ofEntries rest others_ok)

/-- The definitions of a list of records have names. -/
lemma named_of_ofItems : ∀ (items : List Value) {enclosing : Text}
    {definitions : List Definition},
    ofItems enclosing items = .ok definitions → Named definitions
  | [], _, _, h => by
      cases h
      exact .nil
  | record :: rest, _, _, h => by
      simp only [ofItems, bind_eq_ok, pure_eq_ok, Except.ok.injEq] at h
      obtain ⟨first, first_ok, others, others_ok, rfl⟩ := h
      cases named_of_ofRecord record first_ok with
      | cons named multiFields below _ =>
          exact .cons named multiFields below (named_of_ofItems rest others_ok)

/-- The definition of a record has a name. -/
lemma named_of_ofRecord : ∀ (record : Value) {enclosing : Text} {key? : Option Text}
    {definition : Definition},
    ofRecord enclosing key? record = .ok definition → Named [definition]
  | .mapping entries _, _, _, _, h => by
      simp only [ofRecord, bind_eq_ok, pure_eq_ok, Except.ok.injEq] at h
      obtain ⟨name, name_ok, scalars, scalars_ok, multiFields, multiFields_ok, fields, fields_ok,
        rfl⟩ := h
      have scalars_name := scalarsOf_name scalars_ok
      have name_ne := recordName_ok name_ok
      exact .cons (by rw [scalars_name]; exact name_ne) (named_of_ofEntry entries multiFields_ok)
        (named_of_ofEntry entries fields_ok) .nil
  | .null, _, _, _, h | .list .., _, _, _, h | .bool _, _, _, _, h | .int _, _, _, _, h
  | .float _, _, _, _, h | .text _, _, _, _, h | .binary _, _, _, _, h | .date .., _, _, _, h
  | .timestamp .., _, _, _, h | .pair .., _, _, _, h | .set .., _, _, _, h
  | .endless, _, _, _, h => by cases h

/-- The definitions that a root set lends have names. -/
lemma named_of_ofRootSet : ∀ (record : Value) {enclosing : Text} {definitions : List Definition},
    ofRootSet enclosing record = .ok definitions → Named definitions
  | .mapping entries _, _, _, h => named_of_ofEntry entries h
  | .null, _, _, h | .list .., _, _, h | .bool _, _, _, h | .int _, _, _, h | .float _, _, _, h
  | .text _, _, _, h | .binary _, _, _, h | .date .., _, _, h | .timestamp .., _, _, h
  | .pair .., _, _, h | .set .., _, _, h | .endless, _, _, h => by
      cases h
      exact .nil

/-- The definitions under a key have names. -/
lemma named_of_ofEntry : ∀ (entries : Entries) {enclosing name : Text}
    {definitions : List Definition},
    ofEntry enclosing name entries = .ok definitions → Named definitions
  | [], _, _, _, h => by
      cases h
      exact .nil
  | (key, value) :: rest, _, _, _, h => by
      rw [ofEntry] at h
      split at h
      · exact named_of_ofValue value h
      · exact named_of_ofEntry rest h

end

/-! ## Definitions that are found -/

/-- A definition is found by its whole path, or below it by what is left of the path. -/
lemma findIn_eq (path : List Text) (definition : Definition) :
    findIn path definition
      = match stripSegments (FieldPath.segments definition.name) path with
        | none => none
        | some [] => some definition
        | some (segment :: rest) =>
          (findAmong (segment :: rest) definition.fields).or
            (findAmong (segment :: rest) definition.multiFields) := by
  cases definition
  rw [findIn]
  split <;> simp_all
  split <;> simp_all

/-- Of several definitions the first one found counts. -/
lemma findAmong_cons (path : List Text) (definition : Definition) (rest : List Definition) :
    findAmong path (definition :: rest) = (findIn path definition).or (findAmong path rest) := by
  rw [findAmong]
  cases findIn path definition <;> rfl

/-- A definition found among definitions with names is one of them. -/
lemma named_of_findAmong (definitions : List Definition) :
    ∀ {path : List Text} {found : Definition}, Named definitions →
      findAmong path definitions = some found → Named [found] := by
  induction definitions using forest_induction with
  | nil =>
      intro path found _ h
      cases h
  | cons definition rest ih_multi ih_below ih_rest =>
      intro path found named h
      cases named with
      | cons name_ne multiFields below others =>
          rw [findAmong_cons, findIn_eq, Option.or_eq_some_iff] at h
          rcases h with h | ⟨-, h⟩
          · split at h
            · cases h
            · cases h
              exact .cons name_ne multiFields below .nil
            · rcases Option.or_eq_some_iff.mp h with h | ⟨-, h⟩
              · exact ih_below below h
              · exact ih_multi multiFields h
          · exact ih_rest others h

end Definition

end ExternalFields
