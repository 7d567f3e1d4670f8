import ExternalFields.Text.Basic

/-!
# Field paths

Fields are named by dotted paths: the names of a field's ancestors and its own, joined by dots.
A name may hold dots itself, so that one name can stand for several levels.

* **`FieldPath.join`**: the path of a field under an enclosing path
* **`FieldPath.relativeTo`**: a path seen from an enclosing one
* **`FieldPath.segments`**: the parts of a path between its dots
-/

namespace ExternalFields.FieldPath

/-- The path of the field `name` under the path `enclosing`, which is empty at top level. -/
def join (enclosing name : Text) : Text :=
  if enclosing.isEmpty then name else enclosing ++ "." ++ name

/-- The rest of `key` after the enclosing path and its dot; `key` itself if it does not start with
them. -/
def relativeTo (enclosing key : Text) : Text :=
  if enclosing.isEmpty then key else ((enclosing ++ ".").isPrefixOf? key).getD key

/-- The parts of a path between its dots; one more than there are dots. -/
def segments : Text → List Text
  | [] => [[]]
  | c :: rest =>
    if c = '.' then [] :: segments rest
    else
      match segments rest with
      | [] => [[c]]
      | segment :: others => (c :: segment) :: others

end ExternalFields.FieldPath
