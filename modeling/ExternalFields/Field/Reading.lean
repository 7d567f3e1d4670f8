import ExternalFields.Attribute
import ExternalFields.Field.Basic
import ExternalFields.FieldPath

/-!
# Reading local fields

A fields document is a list of mappings, each with a name; the fields below a field are again such
a list. Entries of other keys are kept in document order.

* **`Field.ofValue`**: the fields that the data of a document writes, under a path
-/

namespace ExternalFields.Field

open Yaml

/-- The name of a field, which must not be empty. -/
def nameOf (enclosing : Text) (entries : Entries) : Except DocumentError Text :=
  match Value.lookup "name" entries with
  | some (.text s) => if s.isEmpty then .error (.fieldWithoutName enclosing) else .ok s
  | _ => .error (.fieldWithoutName enclosing)

/-- The entries whose keys belong to no typed attribute. -/
def otherAttributes (entries : Entries) : Entries :=
  entries.filter fun entry => !isKnownKey entry.1

/-- The attributes of a field that are no fields themselves. -/
def scalarsOf (entries : Entries) (path name : Text) : Except DocumentError Field := do
  let type ← Attribute.text? entries path "type"
  let external ← Attribute.text? entries path "external"
  let description ← Attribute.text? entries path "description"
  let pattern ← Attribute.text? entries path "pattern"
  let index ← Attribute.flag? entries path "index"
  let docValues ← Attribute.flag? entries path "doc_values"
  let normalize ← Attribute.texts entries path "normalize"
  return {
    name, type, external, description, pattern, index, docValues, normalize
    attributes := otherAttributes entries }

mutual

/-- The fields that a value writes under the path `enclosing`.

Only data that holds itself is too deep to be followed. Aliases can nest finite data deeper than an
interpreter recurses: its recursion limit is not modelled here, and such data is read however deep
it is nested. The limit is modelled where documents are composed, where their data is made and
where they are written, as `deepestNode`, `deepestData` and `deepestOutline`. -/
def ofValue (enclosing : Text) : Value → Except DocumentError (List Field)
  | .null => .ok []
  | .list items _ => ofItems enclosing items
  | .endless => .error (.unusable .tooDeep)
  | _ => .error (.fieldsNotList enclosing)

/-- The fields of a list. -/
def ofItems (enclosing : Text) : List Value → Except DocumentError (List Field)
  | [] => .ok []
  | item :: rest => do
    let first ← ofItem enclosing item
    let others ← ofItems enclosing rest
    return first :: others

/-- One field. -/
def ofItem (enclosing : Text) : Value → Except DocumentError Field
  | .mapping entries _ => do
    let name ← nameOf enclosing entries
    let path := FieldPath.join enclosing name
    let scalars ← scalarsOf entries path name
    let multiFields ← ofEntry path "multi_fields" entries
    let fields ← ofEntry path "fields" entries
    return { scalars with multiFields := multiFields.getD [], fields }
  | .endless => .error (.unusable .tooDeep)
  | _ => .error (.fieldNotMapping enclosing)

/-- The fields under the text key `name`, nothing if there is no such entry or if it is null. -/
def ofEntry (enclosing name : Text) : Entries → Except DocumentError (Option (List Field))
  | [] => .ok none
  | (key, value) :: rest =>
    if key.isText name then
      if value matches .null then .ok none else some <$> ofValue enclosing value
    else ofEntry enclosing name rest

end

end ExternalFields.Field
