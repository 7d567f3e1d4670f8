import ExternalFields.Definition.Basic
import ExternalFields.Field.Basic

/-!
# Overlaying definitions

An imported definition supplies what the local field leaves open. Local attributes win, except for
the type, which the schema fixes.

* **`Field.ofDefinition`**: a definition as a field
* **`Field.mergedType`**: the type of an imported field
* **`Field.overlay`**: a local field completed by its definition
* **`Field.isVacant`**: whether a field is left out of the result
-/

namespace ExternalFields.Field

/-- A text, absent if it is empty. -/
def presentText (s : Text) : Option Text :=
  if s.isEmpty then none else some s

mutual

/-- A definition as a field that carries only the attributes set in it, without the definitions
below it. -/
def ofDefinition : Definition → Field
  | ⟨name, type, description, pattern, index, docValues, normalize, multiFields, _⟩ => {
    name
    type := some type
    description := presentText description
    pattern := presentText pattern
    index, docValues, normalize
    multiFields := ofDefinitions multiFields }

/-- Definitions as fields. -/
def ofDefinitions : List Definition → List Field
  | [] => []
  | definition :: rest => ofDefinition definition :: ofDefinitions rest

end

/-- The type of an imported field. A keyword may be narrowed locally to a constant keyword, so that
its value can be set; any other local type gives way. -/
def mergedType (imported : Text) (localType : Option Text) : Text :=
  if localType == some "constant_keyword" && imported == "keyword" then "constant_keyword"
  else imported

/-- The local list, or the imported one if the local one is empty. -/
def preferred {α : Type} (own imported : List α) : List α :=
  if own.isEmpty then imported else own

/-- A local field completed by the definition it is imported from. It is no longer marked as
external; its name, its other attributes and the fields below it are its own. -/
def overlay (definition : Definition) (field : Field) : Field :=
  let imported := ofDefinition definition
  { field with
    type := some (mergedType definition.type field.type)
    external := none
    description := field.description.or imported.description
    pattern := field.pattern.or imported.pattern
    index := field.index.or imported.index
    docValues := field.docValues.or imported.docValues
    normalize := preferred field.normalize imported.normalize
    multiFields := preferred field.multiFields imported.multiFields }

/-- Whether a field groups no fields at all and is left out of the result. -/
def isVacant (field : Field) : Bool :=
  field.isGroup && field.fields.all List.isEmpty

end ExternalFields.Field
