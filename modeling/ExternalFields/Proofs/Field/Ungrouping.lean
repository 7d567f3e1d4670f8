import ExternalFields.Proofs.Field.Occurrence

/-!
# Groups and dotted names

A group of fields can be written without the group: the fields in it take its place, under names
that start with the name of the group and a dot.  `ungroup` does so for any fields of a tree that
are chosen, by their positions, so that fields that look the same can be told apart.

* `Position`, `occurrenceAt`: the fields of a tree by number, level by level.
* `Choice`: some positions; `Choice.first` and `Choice.others` are those in the first tree of a list
  and those in the others.
* `ungroup`: trees without the chosen fields; `ungroup_cons` is its one step.
-/

namespace ExternalFields

/-! ## Positions -/

/-- A position in a list of trees: the number of a tree, from zero on, and the position in the list
of fields below its root, empty if the root is meant. -/
abbrev Position := List Nat

/-- The field at a position, with the fields above it. -/
def occurrenceAt (above fields : List Field) : Position → Option Occurrence
  | [] => none
  | [i] => fields[i]?.map fun field => ⟨field, above⟩
  | i :: j :: position =>
    fields[i]?.bind fun field =>
      occurrenceAt (field :: above) (field.fields.getD []) (j :: position)

/-- Some of the fields of a list of trees, by their positions. -/
abbrev Choice := Position → Bool

namespace Choice

/-- What is chosen of the first tree of a list. Its root is at the empty position. -/
def first (chosen : Choice) : Choice := fun position => chosen (0 :: position)

/-- What is chosen of the trees after the first one. -/
def others (chosen : Choice) : Choice
  | [] => chosen []
  | i :: position => chosen ((i + 1) :: position)

/-- Whether all chosen fields are groups that are not marked, nor is any field above them. -/
def IsOfGroups (above fields : List Field) (chosen : Choice) : Prop :=
  ∀ position o, chosen position → occurrenceAt above fields position = some o →
    o.field.isGroup ∧ ∀ field ∈ o.line, field.ownSchema = none

section

variable {above rest : List Field} {field : Field} {chosen : Choice}

/-- A first tree whose root is chosen is an unmarked group below unmarked fields. -/
lemma IsOfGroups.root (groups : chosen.IsOfGroups above (field :: rest))
    (here : chosen.first []) :
    field.isGroup ∧ ∀ other ∈ field :: above, other.ownSchema = none :=
  groups [0] ⟨field, above⟩ here rfl

lemma IsOfGroups.first (groups : chosen.IsOfGroups above (field :: rest)) :
    chosen.first.IsOfGroups (field :: above) (field.fields.getD []) := by
  intro position o there found
  cases position with
  | nil => cases found
  | cons i position => exact groups (0 :: i :: position) o there found

lemma IsOfGroups.others (groups : chosen.IsOfGroups above (field :: rest)) :
    chosen.others.IsOfGroups above rest := by
  intro position o there found
  match position with
  | [] => cases found
  | [i] => exact groups [i + 1] o there found
  | i :: j :: position => exact groups ((i + 1) :: j :: position) o there found

end

end Choice

/-! ## Trees without the chosen groups -/

/-- A field that is taken out of a group: its name starts with that of the group and a dot. -/
def Field.within (group : Text) (field : Field) : Field :=
  { field with name := group ++ "." ++ field.name }

mutual

/-- A tree without the chosen fields of it. -/
def Field.ungroup (chosen : Choice) : Field → List Field
  | ⟨name, type, external, description, pattern, index, docValues, normalize, multiFields,
      attributes, fields⟩ =>
    let field : Field := ⟨name, type, external, description, pattern, index, docValues, normalize,
      multiFields, attributes, fields⟩
    let below? := ungroupChildren chosen fields
    if chosen [] then (below?.getD []).map (Field.within name)
    else [{ field with fields := below? }]

/-- The fields below a field without the chosen ones. -/
def ungroupChildren (chosen : Choice) : Option (List Field) → Option (List Field)
  | none => none
  | some fields => some (ungroup chosen fields)

/-- A list of trees without the chosen fields: each of them is replaced by the fields below it,
under names that start with its own name and a dot. -/
def ungroup (chosen : Choice) : List Field → List Field
  | [] => []
  | field :: rest => field.ungroup chosen.first ++ ungroup chosen.others rest

end

@[simp] lemma ungroup_nil (chosen : Choice) : ungroup chosen [] = [] := rfl

/-- **One step of ungrouping**: the first tree is replaced by what is below its root if that is
chosen, and keeps its root otherwise. -/
lemma ungroup_cons (chosen : Choice) (field : Field) (rest : List Field) :
    ungroup chosen (field :: rest)
      = (if chosen.first [] then
          (ungroup chosen.first (field.fields.getD [])).map (Field.within field.name)
        else [{ field with fields := field.fields.map (ungroup chosen.first) }])
          ++ ungroup chosen.others rest := by
  obtain ⟨name, type, external, description, pattern, index, docValues, normalize, multiFields,
    attributes, fields⟩ := field
  cases fields <;> rfl

lemma getD_map_ungroup (chosen : Choice) (fields? : Option (List Field)) :
    (fields?.map (ungroup chosen)).getD [] = ungroup chosen (fields?.getD []) := by
  cases fields? <;> rfl

/-- Only the group at the second of two like positions is taken out, and one in the first. -/
example :
    ungroup (fun position => position == [1] || position == [0, 0]) [
      { name := "a", fields := some [{ name := "g", fields := some [{ name := "x" }] }] },
      { name := "g", fields := some [{ name := "x" }, { name := "y", fields := some [] }] },
      { name := "g", fields := some [{ name := "x" }] }]
    = [
      { name := "a", fields := some [{ name := "g.x" }] },
      { name := "g.x" }, { name := "g.y", fields := some [] },
      { name := "g", fields := some [{ name := "x" }] }] := rfl

end ExternalFields
