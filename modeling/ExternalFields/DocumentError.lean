import ExternalFields.Text.Basic
import ExternalFields.Yaml.Value

/-!
# Document errors

What can be wrong with the data of a fields document. Each error names its place: the path of the
enclosing field, or the path of the field whose attribute is at fault.

* **`DocumentError`**: the causes
* **`DocumentError.message`**: their wording
-/

namespace ExternalFields

/-- What is wrong with the data of a fields document. -/
inductive DocumentError where
  /-- The local fields under a path are no list. -/
  | fieldsNotList (enclosing : Text)
  /-- A local field is no mapping. -/
  | fieldNotMapping (enclosing : Text)
  /-- A local field has no name, an empty one, or one that is no text. -/
  | fieldWithoutName (enclosing : Text)
  /-- The definitions under a path are neither a list nor a mapping. -/
  | definitionsNotCollection (enclosing : Text)
  /-- A definition is no mapping. -/
  | definitionNotMapping (enclosing : Text)
  /-- A definition has no name, an empty one, or one that is no text. -/
  | definitionWithoutName (enclosing : Text)
  /-- The attribute `key` of the field at `path` should be text. -/
  | notText (path key : Text)
  /-- The attribute `key` of the field at `path` should be a truth value. -/
  | notFlag (path key : Text)
  /-- The attribute `key` of the field at `path` should be a list of texts. -/
  | notTexts (path key : Text)
  /-- The data cannot be followed, or a key of it not be named. -/
  | unusable (e : Yaml.ReadError)
  deriving DecidableEq, Repr

namespace DocumentError

/-- An enclosing path as it is shown; the top level has a name of its own. -/
def shownPlace (enclosing : Text) : Text :=
  if enclosing.isEmpty then "<root>" else enclosing

/-- The wording of an error. -/
def message : DocumentError → Text
  | .fieldsNotList place => "fields under '" ++ shownPlace place ++ "' must be a list."
  | .fieldNotMapping place => "field under '" ++ shownPlace place ++ "' must be a mapping."
  | .fieldWithoutName place => "field under '" ++ shownPlace place ++ "' requires a name."
  | .definitionsNotCollection place =>
    "fields under '" ++ shownPlace place ++ "' must be a list or a mapping."
  | .definitionNotMapping place =>
    "field definition under '" ++ shownPlace place ++ "' must be a mapping."
  | .definitionWithoutName place =>
    "field definition under '" ++ shownPlace place ++ "' requires a name."
  | .notText path key => path ++ "." ++ key ++ " must be a string."
  | .notFlag path key => path ++ "." ++ key ++ " must be a boolean."
  | .notTexts path key => path ++ "." ++ key ++ " must be a list of strings."
  | .unusable _ => "unusable data"

end DocumentError

end ExternalFields
