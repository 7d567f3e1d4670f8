import ExternalFields.Attribute
import ExternalFields.Definition.Basic
import ExternalFields.FieldPath

/-!
# Reading definitions

A schema document comes in three layouts, which may be mixed level by level: a list of records
that carry their names; a mapping keyed by full dotted paths; and a mapping of field sets, among
which one marked as root lends its fields to the level it stands on.

* **`Definition.ofValue`**: the definitions that the data of a document writes, under a path
-/

namespace ExternalFields.Definition

open Yaml

/-- Whether a record is a field set marked as root. -/
def isRootSet : Value → Bool
  | .mapping entries _ =>
    match Value.lookup "root" entries with
    | some (.bool true) => true
    | _ => false
  | _ => false

/-- The name of a record: its key if it has one, otherwise its `name` entry. -/
def recordName (enclosing : Text) (key? : Option Text) (entries : Entries) :
    Except DocumentError Text :=
  let name := match key? with
    | some key => key
    | none =>
      match Value.lookup "name" entries with
      | some (.text s) => s
      | _ => ""
  if name.isEmpty then .error (.definitionWithoutName enclosing) else .ok name

/-- The attributes of a record that are no definitions themselves. -/
def scalarsOf (entries : Entries) (path name : Text) : Except DocumentError Definition := do
  let type ← Attribute.text? entries path "type"
  let description ← Attribute.text? entries path "description"
  let pattern ← Attribute.text? entries path "pattern"
  let index ← Attribute.flag? entries path "index"
  let docValues ← Attribute.flag? entries path "doc_values"
  let normalize ← Attribute.texts entries path "normalize"
  return {
    name
    type := type.getD ""
    description := description.getD ""
    pattern := pattern.getD ""
    index, docValues, normalize }

mutual

/-- The definitions that a value writes under the path `enclosing`.

Only data that holds itself is too deep to be followed. As in `Field.ofValue`, an interpreter's
recursion limit is not modelled for finite data, which aliases can nest deeper than that, though
`deepestNode`, `deepestData` and `deepestOutline` model it where documents are composed, where
their data is made and where they are written. -/
def ofValue (enclosing : Text) : Value → Except DocumentError (List Definition)
  | .null => .ok []
  | .mapping entries _ => ofEntries enclosing entries
  | .list items _ => ofItems enclosing items
  | .endless => .error (.unusable .tooDeep)
  | _ => .error (.definitionsNotCollection enclosing)

/-- The definitions of a mapping. Keys are full paths; a root set is replaced by its fields. -/
def ofEntries (enclosing : Text) : Entries → Except DocumentError (List Definition)
  | [] => .ok []
  | (key, record) :: rest => do
    let first ←
      if isRootSet record then ofRootSet enclosing record
      else
        let name := FieldPath.relativeTo enclosing (← key.keyText.mapError .unusable)
        (fun definition => [definition]) <$> ofRecord enclosing (some name) record
    let others ← ofEntries enclosing rest
    return first ++ others

/-- The definitions of a list of records. -/
def ofItems (enclosing : Text) : List Value → Except DocumentError (List Definition)
  | [] => .ok []
  | record :: rest => do
    let first ← ofRecord enclosing none record
    let others ← ofItems enclosing rest
    return first :: others

/-- The definition of one record, which is named by its key if it has one. -/
def ofRecord (enclosing : Text) (key? : Option Text) : Value → Except DocumentError Definition
  | .mapping entries _ => do
    let name ← recordName enclosing key? entries
    let path := FieldPath.join enclosing name
    let scalars ← scalarsOf entries path name
    let multiFields ← ofEntry path "multi_fields" entries
    let fields ← ofEntry path "fields" entries
    return { scalars with multiFields, fields }
  | .endless => .error (.unusable .tooDeep)
  | _ => .error (.definitionNotMapping enclosing)

/-- The definitions that a root set lends to its level. -/
def ofRootSet (enclosing : Text) : Value → Except DocumentError (List Definition)
  | .mapping entries _ => ofEntry enclosing "fields" entries
  | _ => .ok []

/-- The definitions under the text key `name` of a record; none if there is no such entry. -/
def ofEntry (enclosing name : Text) : Entries → Except DocumentError (List Definition)
  | [] => .ok []
  | (key, value) :: rest =>
    if key.isText name then ofValue enclosing value else ofEntry enclosing name rest

end

end ExternalFields.Definition
