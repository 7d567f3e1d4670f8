import ExternalFields.Injection
import ExternalFields.Proofs.Results
import Mathlib.Data.List.Basic

/-!
# Fields at their places

A field of a tree is looked at together with the fields above it.  Its place decides its dotted
path and the schema that it is looked up in, and these decide what injection makes of it; nothing
is threaded through a recursion here, everything is read off the line from the field to the top.

* `Field.forest_induction`: induction over lists of trees.
* `Occurrence`: a field with the fields above it, the closest first.
* `occurrences`: all of a list of trees, in document order.
* `Occurrence.path`, `Occurrence.schema?`: the path, and the closest mark on the line to the top.
* `Occurrence.definition?`: the definition of that path in that schema, if there is one.
* `Occurrence.resolved`, `Occurrence.type?`: the field completed by it, and the type it then has.
-/

namespace ExternalFields

/-! ## Induction over trees -/

/-- **Induction over lists of trees**: the first tree contributes the fields below it and its
multi-fields, which are lists of trees themselves. -/
theorem Field.forest_induction {motive : List Field → Prop} (nil : motive [])
    (cons : ∀ field rest, motive field.multiFields → motive (field.fields.getD []) →
      motive rest → motive (field :: rest)) :
    ∀ fields, motive fields
  | [] => nil
  | field :: rest =>
      cons field rest (forest_induction nil cons field.multiFields)
        (forest_induction nil cons (field.fields.getD [])) (forest_induction nil cons rest)
termination_by fields => sizeOf fields
decreasing_by
  all_goals
    obtain ⟨_, _, _, _, _, _, _, _, _, _, fields⟩ := field
    cases fields <;> simp <;> omega

/-! ## Places -/

/-- A field at its place in a tree, with the fields above it, the closest first. -/
structure Occurrence where
  field : Field
  above : List Field

mutual

/-- A field and all fields below it, in document order. -/
def Field.occurrences (above : List Field) : Field → List Occurrence
  | ⟨name, type, external, description, pattern, index, docValues, normalize, multiFields,
      attributes, fields⟩ =>
    let field : Field := ⟨name, type, external, description, pattern, index, docValues, normalize,
      multiFields, attributes, fields⟩
    ⟨field, above⟩ :: childOccurrences (field :: above) fields

/-- All fields below a field. -/
def childOccurrences (above : List Field) : Option (List Field) → List Occurrence
  | none => []
  | some fields => occurrences above fields

/-- All fields of a list of trees that stands below other fields, in document order. -/
def occurrences (above : List Field) : List Field → List Occurrence
  | [] => []
  | field :: rest => field.occurrences above ++ occurrences above rest

end

@[simp] lemma occurrences_nil (above : List Field) : occurrences above [] = [] := rfl

/-- A list of trees begins with its first field, followed by what is below that. -/
@[simp] lemma occurrences_cons (above : List Field) (field : Field) (rest : List Field) :
    occurrences above (field :: rest)
      = ⟨field, above⟩ :: (occurrences (field :: above) (field.fields.getD [])
          ++ occurrences above rest) := by
  obtain ⟨name, type, external, description, pattern, index, docValues, normalize, multiFields,
    attributes, fields⟩ := field
  cases fields <;> rfl

/-- The path of the field that a line of fields begins with, the closest to it first. -/
def linePath (line : List Field) : Text :=
  line.foldr (fun field enclosing => FieldPath.join enclosing field.name) ""

@[simp] lemma linePath_cons (field : Field) (above : List Field) :
    linePath (field :: above) = FieldPath.join (linePath above) field.name := rfl

/-- The names of a line of fields, from the top down. -/
def lineNames (line : List Field) : List Text :=
  (line.map Field.name).reverse

/-- Adding a last part to a joined list adds the separator and the part. -/
lemma intercalate_concat (separator last : Text) : ∀ parts : List Text, parts ≠ [] →
    List.intercalate separator (parts ++ [last])
      = List.intercalate separator parts ++ separator ++ last
  | [], h => absurd rfl h
  | [part], _ => by simp
  | part :: next :: others, _ => by
      have ih := intercalate_concat separator last (next :: others) (List.cons_ne_nil _ _)
      simp only [List.cons_append, List.intercalate_cons_cons] at ih ⊢
      rw [ih]
      simp only [List.append_assoc]

/-- A line whose first field has a name has a path. -/
lemma linePath_ne_nil {field : Field} (above : List Field) (named : field.name ≠ []) :
    linePath (field :: above) ≠ [] := by
  rw [linePath_cons, FieldPath.join]
  split
  · exact named
  · simp [named]

/-- If no name on the line is empty, the path is made of all of them, joined by dots. -/
lemma linePath_eq_intercalate :
    ∀ line : List Field, (∀ field ∈ line, field.name ≠ []) →
      linePath line = List.intercalate "." (lineNames line)
  | [], _ => rfl
  | [field], _ => by simp [linePath, lineNames, FieldPath.join, Text.ofString, Text.ofChars]
  | field :: parent :: others, named => by
      have ih := linePath_eq_intercalate (parent :: others)
        (fun other h => named other (List.mem_cons_of_mem _ h))
      have path_ne := linePath_ne_nil others (named parent (by simp))
      have names : lineNames (field :: parent :: others)
          = lineNames (parent :: others) ++ [field.name] := by simp [lineNames]
      rw [names, intercalate_concat _ _ _ (by simp [lineNames]), ← ih, linePath_cons,
        FieldPath.join, if_neg (by simpa using path_ne)]

namespace Occurrence

/-- The fields on the way from a field to the top of its tree. -/
def line (o : Occurrence) : List Field := o.field :: o.above

/-- The dotted path of a field. -/
def path (o : Occurrence) : Text := linePath o.line

/-- The closest mark on the way to the top, that of the field itself included. -/
def schema? (o : Occurrence) : Option Text := o.line.findSome? Field.ownSchema

/-- The fields at and below the place, in document order. -/
def subtree (o : Occurrence) : List Occurrence := o.field.occurrences o.above

/-- At and below a place are the field itself and what is below it. -/
lemma subtree_eq (o : Occurrence) :
    o.subtree = o :: occurrences (o.field :: o.above) (o.field.fields.getD []) := by
  have alone : o.subtree = occurrences o.above [o.field] := by simp [subtree, occurrences]
  rw [alone, occurrences_cons, occurrences_nil, List.append_nil]

/-- What is below a place stands in the same trees. -/
lemma subtree_subset {fields : List Field} :
    ∀ {above : List Field}, ∀ o ∈ occurrences above fields,
      ∀ inner ∈ o.subtree, inner ∈ occurrences above fields := by
  induction fields using Field.forest_induction with
  | nil => simp
  | cons field rest _ ih_below ih_rest =>
      intro above o member inner inner_member
      simp only [occurrences_cons, List.mem_cons, List.mem_append] at member ⊢
      rcases member with rfl | member | member
      · rw [subtree_eq, List.mem_cons] at inner_member
        exact inner_member.imp_right .inl
      · exact .inr (.inl (ih_below o member inner inner_member))
      · exact .inr (.inr (ih_rest o member inner inner_member))

/-- Every field on the way from a place to the top of its tree stands at a place itself. -/
lemma line_of_occurrences {fields : List Field} :
    ∀ {above : List Field}, ∀ o ∈ occurrences above fields, ∀ field ∈ o.line,
      field ∈ above ∨ ∃ place ∈ occurrences above fields, place.field = field := by
  induction fields using Field.forest_induction with
  | nil => simp
  | cons field rest _ ih_below ih_rest =>
      intro above o member other on_line
      simp only [occurrences_cons, List.mem_cons, List.mem_append] at member ⊢
      rcases member with rfl | member | member
      · rcases List.mem_cons.mp on_line with rfl | h
        · exact .inr ⟨_, .inl rfl, rfl⟩
        · exact .inl h
      · rcases ih_below o member other on_line with h | ⟨place, h, eq⟩
        · rcases List.mem_cons.mp h with rfl | h
          · exact .inr ⟨_, .inl rfl, rfl⟩
          · exact .inl h
        · exact .inr ⟨place, .inr (.inl h), eq⟩
      · exact (ih_rest o member other on_line).imp_right
          fun ⟨place, h, eq⟩ => ⟨place, .inr (.inr h), eq⟩

variable (registered : Option Registry)

/-- What the closest mark's schema defines at the path, if there is a mark, the schema is
registered and the path is defined. -/
def definition? (o : Occurrence) : Option Definition :=
  registered.bind fun registry =>
    o.schema?.bind fun schema =>
      (registry.definitions? schema).bind fun definitions =>
        Definition.find? definitions o.path

/-- The field completed by its definition, if it has one. -/
def resolved (o : Occurrence) : Field := o.field.completed (o.definition? registered)

/-- The type that counts: the merged one if the field has a definition, its own otherwise. -/
def type? (o : Occurrence) : Option Text :=
  match o.definition? registered with
  | some definition => some (Field.mergedType definition.type o.field.type)
  | none => o.field.type

end Occurrence

end ExternalFields
