import ExternalFields.DocumentError
import ExternalFields.Yaml.Value

/-!
# Typed attributes

The attributes of a field have fixed types in the data of a document. An attribute that is missing
or null is absent; one of another type is an error at the field's path.

* **`Attribute.text?`**, **`Attribute.flag?`**, **`Attribute.texts`**: an attribute of each type
-/

namespace ExternalFields.Attribute

open Yaml

/-- A text, if there is one. -/
def text? (entries : Entries) (path key : Text) : Except DocumentError (Option Text) :=
  match Value.lookup key entries with
  | none | some .null => .ok none
  | some (.text s) => .ok (some s)
  | some _ => .error (.notText path key)

/-- A truth value, if there is one. -/
def flag? (entries : Entries) (path key : Text) : Except DocumentError (Option Bool) :=
  match Value.lookup key entries with
  | none | some .null => .ok none
  | some (.bool b) => .ok (some b)
  | some _ => .error (.notFlag path key)

/-- The texts that values are, if all of them are texts. -/
def allTexts? : List Value → Option (List Text)
  | [] => some []
  | .text s :: rest => (allTexts? rest).map (s :: ·)
  | _ :: _ => none

/-- A list of texts, empty if there is none. -/
def texts (entries : Entries) (path key : Text) : Except DocumentError (List Text) :=
  match Value.lookup key entries with
  | none | some .null => .ok []
  | some (.list items _) =>
    match allTexts? items with
    | some strings => .ok strings
    | none => .error (.notTexts path key)
  | some _ => .error (.notTexts path key)

end ExternalFields.Attribute
