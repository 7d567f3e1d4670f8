import ExternalFields.Proofs.Definition.Places
import Mathlib.Data.List.Nodup

/-!
# Flat schemas

A schema can be flattened: every definition that is reached through fields is listed at top level,
under its full dotted path, with its multi-fields but without the fields below it.  This moves
places about, but keeps their keys and what is defined there (`entries_flattenUnder`).

If no two places of a schema have the same path and no name holds the segment `*`, then a path asks
for one place at most, and the order of the places does not count (`Unambiguous.find?_eq`).  So the
flat schema defines the same at every path as the schema itself.

* `Definition.flatten`: the flat form of a schema.
* `Definition.Unambiguous`: what makes lookups independent of the order of places.
* **`Unambiguous.find?_flatten`**: lookups in both forms give the same attributes.
-/

namespace ExternalFields.Definition

mutual

/-- A definition and those reached from it through fields, each for itself and under its path. -/
def flattenIn (above : List Text) : Definition → List Definition
  | ⟨name, type, description, pattern, index, docValues, normalize, multiFields, fields⟩ =>
    ⟨List.intercalate "." (above ++ [name]), type, description, pattern, index, docValues,
      normalize, multiFields, []⟩ :: flattenUnder (above ++ [name]) fields

/-- The definitions of a list that stands below other definitions, and those reached from them
through fields. -/
def flattenUnder (above : List Text) : List Definition → List Definition
  | [] => []
  | definition :: rest => flattenIn above definition ++ flattenUnder above rest

end

/-- The flat form of a schema: in document order, the definitions that are reached through fields,
each named by its path and without fields below it. -/
def flatten (definitions : List Definition) : List Definition := flattenUnder [] definitions

/-- A flattened list begins with its first definition, followed by those reached from it. -/
lemma flattenUnder_cons (above : List Text) (definition : Definition) (rest : List Definition) :
    flattenUnder above (definition :: rest)
      = { definition with name := Place.path ⟨above, definition⟩, fields := [] } ::
          (flattenUnder (above ++ [definition.name]) definition.fields
            ++ flattenUnder above rest) := by
  cases definition
  rfl

/-! ## What stands at a key -/

/-- A definition apart from its name and the fields below it. -/
def bare (definition : Definition) : Definition := { definition with name := "", fields := [] }

/-- The key of a place, and what is defined there. -/
def Place.entry (place : Place) : List Text × Definition := (place.key, place.definition.bare)

lemma places_append (above : List Text) (front back : List Definition) :
    places above (front ++ back) = places above front ++ places above back := by
  induction front with
  | nil => rfl
  | cons definition front ih => rw [List.cons_append, places, places, ih, List.append_assoc]

/-- Of the names above some definitions only the segments count for their keys. -/
lemma entries_congr (definitions : List Definition) :
    ∀ above above' : List Text,
      above.flatMap FieldPath.segments = above'.flatMap FieldPath.segments →
      (places above definitions).map Place.entry = (places above' definitions).map Place.entry := by
  induction definitions using forest_induction with
  | nil => intros; rfl
  | cons definition rest ih_multi ih_below ih_rest =>
      intro above above' same
      have same_below : (above ++ [definition.name]).flatMap FieldPath.segments
          = (above' ++ [definition.name]).flatMap FieldPath.segments := by
        rw [List.flatMap_append, List.flatMap_append, same]
      have entry_eq : Place.entry ⟨above, definition⟩ = Place.entry ⟨above', definition⟩ := by
        rw [Place.entry, Place.entry, Place.key, Place.key, Place.names, Place.names, same_below]
      simp only [places_cons, List.map_cons, List.map_append, entry_eq,
        ih_below _ _ same_below, ih_multi _ _ same_below, ih_rest _ _ same]

/-- **Flattening keeps what stands at each key**, in another order. -/
lemma entries_flattenUnder (definitions : List Definition) :
    ∀ above : List Text, ((places [] (flattenUnder above definitions)).map Place.entry).Perm
      ((places above definitions).map Place.entry) := by
  induction definitions using forest_induction with
  | nil => intro above; exact .refl _
  | cons definition rest _ ih_below ih_rest =>
      intro above
      have key_eq : FieldPath.segments (Place.path ⟨above, definition⟩)
          = (above ++ [definition.name]).flatMap FieldPath.segments :=
        Place.segments_path ⟨above, definition⟩
      have entry_eq : Place.entry ⟨[], { definition with
            name := Place.path ⟨above, definition⟩, fields := [] }⟩
          = Place.entry ⟨above, definition⟩ := by
        simp only [Place.entry, Place.key, Place.names, bare, List.nil_append,
          List.flatMap_singleton, key_eq]
      have multi_eq := entries_congr definition.multiFields [Place.path ⟨above, definition⟩]
        (above ++ [definition.name]) (by rw [List.flatMap_singleton, key_eq])
      have below := ih_below (above ++ [definition.name])
      have others := ih_rest above
      rw [flattenUnder_cons, places_cons, places_cons, places_append]
      simp only [List.map_cons, List.map_append, entry_eq, places_nil, List.nil_append]
      rw [multi_eq]
      -- flattened, the multi-fields of the definition come before what it holds as fields
      refine .cons _ ?_
      rw [← List.append_assoc]
      exact (List.perm_append_comm.trans (below.append_right _)).append others

/-! ## Lookups that find one place at most -/

/-- Schemas in which no path stands for two definitions: the paths of all definitions differ, those
of multi-fields included, and no segment of them is `*`. -/
structure Unambiguous (definitions : List Definition) : Prop where
  distinct : ((places [] definitions).map Place.path).Nodup
  noWildcard : ∀ place ∈ places [] definitions, ∀ segment ∈ place.key, segment ≠ "*"

/-- A key without `*` matches no other segments than its own. -/
lemma forall₂_segmentMatches {key segments : List Text} (plain : ∀ segment ∈ key, segment ≠ "*") :
    List.Forall₂ Place.SegmentMatches key segments ↔ key = segments := by
  induction key generalizing segments with
  | nil => simp [eq_comm]
  | cons expected key ih =>
      obtain ⟨no_wildcard, plain⟩ := List.forall_mem_cons.mp plain
      cases segments with
      | nil => simp
      | cons actual segments =>
          rw [List.forall₂_cons, ih plain, List.cons.injEq, Place.SegmentMatches,
            or_iff_right no_wildcard]

namespace Unambiguous

variable {definitions : List Definition}

/-- Different paths are different keys. -/
lemma distinct_iff : ((places [] definitions).map Place.path).Nodup ↔
    (((places [] definitions).map Place.entry).map Prod.fst).Nodup := by
  have keys : ((places [] definitions).map Place.entry).map Prod.fst
      = ((places [] definitions).map Place.path).map FieldPath.segments := by
    simp only [List.map_map]
    exact List.map_congr_left fun place _ => place.segments_path.symm
  rw [keys]
  exact (List.nodup_map_iff FieldPath.segments_injective).symm

/-- **A lookup finds the definition whose path it is given**, if there is one. -/
lemma find?_eq_some (unambiguous : Unambiguous definitions) {path : Text} {found : Definition} :
    find? definitions path = some found ↔
      ∃ place ∈ places [] definitions, place.path = path ∧ place.definition = found := by
  have asks : ∀ place ∈ places [] definitions, (place.Matches path ↔ place.path = path) := by
    intro place member
    rw [← FieldPath.segments_injective.eq_iff, place.segments_path]
    exact forall₂_segmentMatches (unambiguous.noWildcard place member)
  rw [Definition.find?_eq, Option.map_eq_some_iff]
  constructor
  · rintro ⟨place, first, rfl⟩
    have member := List.mem_of_find?_eq_some first
    have asked : place.Matches path := by simpa using List.find?_some first
    exact ⟨place, member, (asks place member).mp asked, rfl⟩
  · rintro ⟨place, member, path_eq, rfl⟩
    -- something is found; its path is that of the place, and no other place has this path
    obtain ⟨first, first_eq⟩ : ∃ first,
        (places [] definitions).find? (·.Matches path) = some first := by
      rw [← Option.isSome_iff_exists, List.find?_isSome]
      exact ⟨place, member, by simpa using (asks place member).mpr path_eq⟩
    have first_member := List.mem_of_find?_eq_some first_eq
    have first_asked : first.Matches path := by simpa using List.find?_some first_eq
    have same_path := ((asks first first_member).mp first_asked).trans path_eq.symm
    have same := List.inj_on_of_nodup_map unambiguous.distinct first_member member same_path
    exact ⟨first, first_eq, by rw [same]⟩

/-- **What a lookup gives is what stands at the key of the path.** -/
lemma find?_eq (unambiguous : Unambiguous definitions) (path : Text) (found : Definition) :
    (find? definitions path).map bare = some found ↔
      (FieldPath.segments path, found) ∈ (places [] definitions).map Place.entry := by
  have key_iff : ∀ place : Place, place.path = path ↔ place.key = FieldPath.segments path :=
    fun place => by rw [← place.segments_path, FieldPath.segments_injective.eq_iff]
  simp only [Option.map_eq_some_iff, unambiguous.find?_eq_some, key_iff, List.mem_map, Place.entry,
    Prod.mk.injEq]
  constructor
  · rintro ⟨_, ⟨place, member, key_eq, rfl⟩, rfl⟩
    exact ⟨place, member, key_eq, rfl⟩
  · rintro ⟨place, member, key_eq, rfl⟩
    exact ⟨_, ⟨place, member, key_eq, rfl⟩, rfl⟩

/-- A flat schema is unambiguous if the schema is. -/
lemma flatten (unambiguous : Unambiguous definitions) :
    Unambiguous (Definition.flatten definitions) := by
  have moved := entries_flattenUnder definitions []
  constructor
  · rw [distinct_iff]
    exact (moved.map Prod.fst).nodup_iff.mpr (distinct_iff.mp unambiguous.distinct)
  · intro place member
    have entry := moved.mem_iff.mp (List.mem_map_of_mem member)
    obtain ⟨original, original_member, same⟩ := List.mem_map.mp entry
    have key_eq : original.key = place.key := congrArg Prod.fst same
    rw [← key_eq]
    exact unambiguous.noWildcard original original_member

/-- **A schema and its flat form define the same at every path**, apart from the name of what is
found and the fields below it. -/
lemma find?_flatten (unambiguous : Unambiguous definitions) (path : Text) :
    (find? (Definition.flatten definitions) path).map bare
      = (find? definitions path).map bare := by
  refine Option.ext fun found => ?_
  rw [unambiguous.flatten.find?_eq, unambiguous.find?_eq]
  exact (entries_flattenUnder definitions []).mem_iff

end Unambiguous

/-! ## An example -/

/-- A schema of systems, with a definition below a multi-field and a name with a dot. -/
def nestedSystem : List Definition := [
  { name := "os", type := "group", fields := [
    { name := "name", type := "keyword", multiFields := [
      { name := "text", type := "match_only_text", fields := [
        { name := "raw", type := "wildcard" }] }] },
    { name := "v.id", type := "version" }] }]

example : Definition.flatten nestedSystem = [
    { name := "os", type := "group" },
    { name := "os.name", type := "keyword", multiFields := [
      { name := "text", type := "match_only_text", fields := [
        { name := "raw", type := "wildcard" }] }] },
    { name := "os.v.id", type := "version" }] := rfl

end ExternalFields.Definition
