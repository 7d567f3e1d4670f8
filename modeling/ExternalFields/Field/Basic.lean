import ExternalFields.Yaml.Value

/-!
# Local fields

A node of a package's own field tree. The attributes that the library understands are typed; all
others are kept as they are. A field without a `fields` entry differs from one whose entry is
empty.

* **`Field`**: a field with the fields under it
* **`Field.isGroup`**: whether it only groups other fields
* **`Field.toValue`**: the field as the data of a document
-/

namespace ExternalFields

open Yaml

/-- A field of a package. `external` names the schema that the field is to be imported from. -/
structure Field where
  name : Text
  type : Option Text := none
  external : Option Text := none
  description : Option Text := none
  pattern : Option Text := none
  index : Option Bool := none
  docValues : Option Bool := none
  normalize : List Text := []
  multiFields : List Field := []
  attributes : Entries := []
  fields : Option (List Field) := none
  deriving Repr, BEq, Inhabited

namespace Field

/-- The keys of the attributes that are typed. -/
def knownKeys : List Text :=
  ["name", "type", "external", "description", "pattern", "index", "doc_values", "normalize",
    "multi_fields", "fields"]

/-- Whether a key belongs to a typed attribute. -/
def isKnownKey : Value → Bool
  | .text s => knownKeys.contains s
  | _ => false

/-- The type of fields that only group others. -/
def groupType : Text := "group"

/-- Whether a field only groups others. -/
def isGroup (field : Field) : Bool :=
  field.type == some groupType

/-! ## Fields as data -/

/-- The entry of a text that may be absent. -/
def textEntry (key : Text) (value : Option Text) : Entries :=
  value.toList.map fun s => (.text key, .text s)

/-- The entry of a truth value that may be absent. -/
def flagEntry (key : Text) (value : Option Bool) : Entries :=
  value.toList.map fun b => (.text key, .bool b)

/-- The entry of a list, none if it is empty. -/
def listEntry (key : Text) (items : List Value) : Entries :=
  if items.isEmpty then [] else [(.text key, .list items none)]

/-- The entries of the attributes that are no fields themselves, in a fixed order. What is absent
has no entry. -/
def scalarEntries (field : Field) : Entries :=
  (.text "name", .text field.name) ::
    (textEntry "type" field.type ++ textEntry "external" field.external
      ++ textEntry "description" field.description ++ textEntry "pattern" field.pattern
      ++ flagEntry "index" field.index ++ flagEntry "doc_values" field.docValues
      ++ listEntry "normalize" (field.normalize.map .text))

mutual

/-- A field as a mapping: typed attributes in a fixed order, then the others, then the fields below
it. -/
def toValue : Field → Value
  | ⟨name, type, external, description, pattern, index, docValues, normalize, multiFields,
      attributes, fields⟩ =>
    let field : Field := ⟨name, type, external, description, pattern, index, docValues, normalize,
      multiFields, attributes, fields⟩
    .mapping
      (field.scalarEntries ++ listEntry "multi_fields" (toValues multiFields) ++ attributes
        ++ childrenEntry fields)
      none

/-- Fields as mappings. -/
def toValues : List Field → List Value
  | [] => []
  | field :: rest => toValue field :: toValues rest

/-- The entry of the fields below a field. -/
def childrenEntry : Option (List Field) → Entries
  | none => []
  | some fields => [(.text "fields", .list (toValues fields) none)]

end

end Field

end ExternalFields
