import ExternalFields.Field.Basic
import ExternalFields.Yaml.Writing

/-!
# Rendering fields

Fields as the text of a fields document. Injected fields own their attributes: an object of the
source document that stands in the attributes of several fields is written out at each of them,
and shared only within the attributes of one. Multi-fields keep the objects of the document.

* **`Field.outline`**: a field as it is written
* **`Field.render`**: the text of a fields document
-/

namespace ExternalFields.Field

open Yaml

/-- The entry of a list under a key. -/
def outlineEntry (key : Text) (items : List Outline) : Outline × Outline :=
  (.scalar .text key none, .list items none)

mutual

/-- A field as it is written. If fields own their attributes, those of each are a copy of their
own. -/
def outline (owned : Bool) : Field → Outlining Outline
  | ⟨name, type, external, description, pattern, index, docValues, normalize, multiFields,
      attributes, fields⟩ => do
    let field : Field := ⟨name, type, external, description, pattern, index, docValues, normalize,
      multiFields, attributes, fields⟩
    let copy ← if owned then Outlining.newCopy else pure 0
    let scalars ← Value.outlineEntries 0 field.scalarEntries
    let multiFields ← outlineAll false multiFields
    let listed := if multiFields.isEmpty then [] else [outlineEntry "multi_fields" multiFields]
    let others ← Value.outlineEntries copy attributes
    let children ← outlineChildren owned fields
    return .mapping .mapping (scalars ++ listed ++ others ++ children) none

/-- Fields as they are written. -/
def outlineAll (owned : Bool) : List Field → Outlining (List Outline)
  | [] => return []
  | field :: rest => return (← outline owned field) :: (← outlineAll owned rest)

/-- The entry of the fields below a field. -/
def outlineChildren (owned : Bool) : Option (List Field) → Outlining (List (Outline × Outline))
  | none => return []
  | some fields => return [outlineEntry "fields" (← outlineAll owned fields)]

end

/-- The text of a fields document. It fails if the attributes cannot be written. -/
def render (owned : Bool) (fields : List Field) : Except ReadError String :=
  Outlining.write do
    return .list (← outlineAll owned fields) none

end ExternalFields.Field
