import ExternalFields.FieldPath

/-!
# Field definitions

A field as a published schema defines it. Absent texts are empty; a truth value that is absent is
neither true nor false.

A definition is looked up by its dotted path. The names of a definition's ancestors and its own,
taken apart at their dots, have to match the path segment by segment; the segment `*` of a name
matches any one segment. Of several matches the first in document order counts, where the fields
below a definition come before its multi-fields.

* **`Definition`**: a definition with the definitions under it
* **`Definition.find?`**: the definition at a path
-/

namespace ExternalFields

/-- A field of a published schema. `multiFields` are further ways to index the same field, `fields`
the fields below it. -/
structure Definition where
  name : Text
  type : Text := ""
  description : Text := ""
  pattern : Text := ""
  index : Option Bool := none
  docValues : Option Bool := none
  normalize : List Text := []
  multiFields : List Definition := []
  fields : List Definition := []
  deriving Repr, BEq, Inhabited

namespace Definition

/-! ## Looking up -/

/-- Whether a segment of a name matches a segment of a path. -/
def matchesSegment (expected actual : Text) : Bool :=
  expected == "*" || expected == actual

/-- What is left of a path after the segments of a name; nothing if they do not match. -/
def stripSegments : List Text → List Text → Option (List Text)
  | [], path => some path
  | _ :: _, [] => none
  | expected :: names, actual :: path =>
    if matchesSegment expected actual then stripSegments names path else none

mutual

/-- The first match for a path among a definition and those below it. -/
def findIn (path : List Text) : Definition → Option Definition
  | ⟨name, type, description, pattern, index, docValues, normalize, multiFields, fields⟩ =>
    match stripSegments (FieldPath.segments name) path with
    | none => none
    | some [] =>
      some ⟨name, type, description, pattern, index, docValues, normalize, multiFields, fields⟩
    | some (segment :: rest) =>
      match findAmong (segment :: rest) fields with
      | some found => some found
      | none => findAmong (segment :: rest) multiFields

/-- The first match for a path among definitions and those below them. -/
def findAmong (path : List Text) : List Definition → Option Definition
  | [] => none
  | definition :: rest =>
    match findIn path definition with
    | some found => some found
    | none => findAmong path rest

end

/-- The definition at a dotted path, the first one if several match. -/
def find? (definitions : List Definition) (path : Text) : Option Definition :=
  findAmong (FieldPath.segments path) definitions

end Definition

end ExternalFields
