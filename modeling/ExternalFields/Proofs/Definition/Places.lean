import ExternalFields.Proofs.Definition.Named
import ExternalFields.Proofs.FieldPath
import Mathlib.Data.List.Forall2

/-!
# Definitions at their places

The definitions of a schema are listed in document order, each together with the names of those
above it.  A place has a key, the segments of all names on the way to it, and a path that asks for
a definition is compared with the key as a whole.

Looking up a definition takes names off the path on the way down, and never looks below a name that
does not match.  Nothing is lost by that: `findAmong_eq` relates the search to the listing, for what
is left of a path after the names above.

* `Definition.Place`, `Definition.places`: a definition with the names above it, and all of them.
* `Definition.Place.Matches`: whether a path asks for a place.
* **`Definition.find?_first`**: the lookup finds the first place that matches, if there is one.
-/

namespace ExternalFields.Definition

/-- A definition at its place in a schema, with the names of the definitions above it, from the top
down. -/
structure Place where
  above : List Text
  definition : Definition

mutual

/-- A definition and all definitions below it, in document order: what is below as a field comes
before what is below as a multi-field. -/
def placesIn (above : List Text) : Definition → List Place
  | ⟨name, type, description, pattern, index, docValues, normalize, multiFields, fields⟩ =>
    ⟨above, ⟨name, type, description, pattern, index, docValues, normalize, multiFields, fields⟩⟩ ::
      (places (above ++ [name]) fields ++ places (above ++ [name]) multiFields)

/-- All definitions of a list that stands below other definitions, in document order. -/
def places (above : List Text) : List Definition → List Place
  | [] => []
  | definition :: rest => placesIn above definition ++ places above rest

end

@[simp] lemma places_nil (above : List Text) : places above [] = [] := rfl

/-- A list of definitions begins with its first one, followed by what is below that. -/
@[simp] lemma places_cons (above : List Text) (definition : Definition) (rest : List Definition) :
    places above (definition :: rest)
      = ⟨above, definition⟩ :: (places (above ++ [definition.name]) definition.fields
          ++ places (above ++ [definition.name]) definition.multiFields
          ++ places above rest) := by
  cases definition
  rfl

namespace Place

/-- The names on the way to a definition, its own included, from the top down. -/
def names (place : Place) : List Text := place.above ++ [place.definition.name]

/-- The segments of the names on the way to a definition. -/
def key (place : Place) : List Text := place.names.flatMap FieldPath.segments

/-- The full dotted path of a definition. -/
def path (place : Place) : Text := List.intercalate "." place.names

/-- The key of a place is what its path is taken apart into. -/
lemma segments_path (place : Place) : FieldPath.segments place.path = place.key :=
  FieldPath.segments_intercalate place.names (by simp [names])

/-- Whether a segment of a key matches a segment of a path. -/
def SegmentMatches (expected actual : Text) : Prop := expected = "*" ∨ expected = actual

/-- Whether a path asks for a place: it has as many segments as the key, and each of them is matched
by the segment of the key at the same position. -/
def Matches (place : Place) (path : Text) : Prop :=
  List.Forall₂ SegmentMatches place.key (FieldPath.segments path)

end Place

/-! ## Taking names off a path -/

/-- Names are taken off a path one after the other. -/
lemma stripSegments_append (front back path : List Text) :
    stripSegments (front ++ back) path
      = (stripSegments front path).bind (stripSegments back) := by
  induction front generalizing path with
  | nil => rfl
  | cons expected front ih =>
      cases path with
      | nil => rfl
      | cons actual path =>
          simp only [List.cons_append, stripSegments]
          split
          · exact ih path
          · rfl

/-- Nothing is left of a path exactly if the names match it segment by segment. -/
lemma stripSegments_eq_nil {names path : List Text} :
    stripSegments names path = some [] ↔ List.Forall₂ Place.SegmentMatches names path := by
  induction names generalizing path with
  | nil => simp [stripSegments]
  | cons expected names ih =>
      cases path with
      | nil => simp [stripSegments]
      | cons actual path =>
          have segment : matchesSegment expected actual ↔ Place.SegmentMatches expected actual := by
            simp [matchesSegment, Place.SegmentMatches]
          rw [List.forall₂_cons, ← ih, ← segment, stripSegments]
          cases matchesSegment expected actual <;> simp

instance (place : Place) (path : Text) : Decidable (place.Matches path) :=
  decidable_of_iff (stripSegments place.key (FieldPath.segments path) = some [])
    stripSegments_eq_nil

/-! ## The search -/

/-- What the names of a line of definitions leave of a path, if they match its beginning. -/
def leftBelow (above : List Text) (path : Text) : Option (List Text) :=
  stripSegments (above.flatMap FieldPath.segments) (FieldPath.segments path)

/-- A name takes its segments off what the names above it leave. -/
lemma leftBelow_concat (above : List Text) (name path : Text) :
    leftBelow (above ++ [name]) path
      = (leftBelow above path).bind (stripSegments (FieldPath.segments name)) := by
  rw [leftBelow, leftBelow, List.flatMap_append, List.flatMap_singleton, stripSegments_append]

/-- A path asks for a place if the names on the way to it leave nothing of the path. -/
lemma Place.matches_iff {place : Place} {path : Text} :
    place.Matches path ↔ leftBelow place.names path = some [] :=
  stripSegments_eq_nil.symm

/-- **The search is one for the first place that matches**: with what the names above leave of the
path, it finds what comes first in the listing; and if they do not match the path, no place does. -/
lemma findAmong_eq (path : Text) (definitions : List Definition) :
    ∀ above : List Text,
      (leftBelow above path).bind (findAmong · definitions)
        = ((places above definitions).find? (·.Matches path)).map Place.definition := by
  induction definitions using forest_induction with
  | nil =>
      intro above
      cases leftBelow above path <;> rfl
  | cons definition rest ih_multi ih_below ih_rest =>
      intro above
      have below := ih_below (above ++ [definition.name])
      have multi := ih_multi (above ++ [definition.name])
      rw [leftBelow_concat] at below multi
      have here : (⟨above, definition⟩ : Place).Matches path ↔
          (leftBelow above path).bind (stripSegments (FieldPath.segments definition.name))
            = some [] := by
        rw [Place.matches_iff, Place.names, leftBelow_concat]
      rw [places_cons, List.find?_cons, List.find?_append, List.find?_append]
      -- the definition is asked for exactly if its name takes all that is left of the path
      by_cases asked : (⟨above, definition⟩ : Place).Matches path
      · obtain ⟨left, left_eq, nothing⟩ := Option.bind_eq_some_iff.mp (here.mp asked)
        simp only [left_eq, Option.bind_some, findAmong_cons, findIn_eq, nothing, asked,
          decide_true, Option.some_or, Option.map_some]
      · simp only [asked, decide_false, Option.map_or, ← below, ← multi, ← ih_rest above]
        cases left_eq : leftBelow above path with
        | none => rfl
        | some left =>
            rw [left_eq, Option.bind_some] at here
            simp only [Option.bind_some, findAmong_cons, findIn_eq]
            cases remaining : stripSegments (FieldPath.segments definition.name) left with
            | none => rfl
            | some segments =>
                cases segments with
                | nil => exact absurd (here.mpr remaining) asked
                | cons segment others => rfl

/-- The lookup finds the first place that matches. -/
lemma find?_eq (definitions : List Definition) (path : Text) :
    find? definitions path
      = ((places [] definitions).find? (·.Matches path)).map Place.definition :=
  findAmong_eq path definitions []

/-- **The lookup is complete and finds the first match.**  A definition is found exactly if it
stands at a place that matches the path and that no matching place comes before, where the places
are listed in document order, each definition before what is below it, and fields before
multi-fields; and nothing is found exactly if no place at any depth matches. -/
theorem find?_first (definitions : List Definition) (path : Text) :
    (∀ found, find? definitions path = some found ↔
      ∃ before place after, places [] definitions = before ++ place :: after ∧
        place.definition = found ∧ place.Matches path ∧
          ∀ earlier ∈ before, ¬ earlier.Matches path) ∧
    (find? definitions path = none ↔ ∀ place ∈ places [] definitions, ¬ place.Matches path) := by
  rw [find?_eq]
  constructor
  · intro found
    simp only [Option.map_eq_some_iff, List.find?_eq_some_iff_append, decide_eq_true_eq,
      Bool.not_eq_true', decide_eq_false_iff_not]
    constructor
    · rintro ⟨place, ⟨asked, before, after, split, earlier⟩, rfl⟩
      exact ⟨before, place, after, split, rfl, asked, earlier⟩
    · rintro ⟨before, place, after, split, rfl, asked, earlier⟩
      exact ⟨place, ⟨asked, before, after, split, earlier⟩, rfl⟩
  · simp

/-- Fields come before multi-fields, and a segment `*` stands for any one segment. -/
example :
    find? [
      { name := "a", fields := [{ name := "*", fields := [{ name := "c", type := "ip" }] }],
        multiFields := [{ name := "b.c", type := "text" }] }] "a.b.c"
      = some { name := "c", type := "ip" } := rfl

end ExternalFields.Definition
