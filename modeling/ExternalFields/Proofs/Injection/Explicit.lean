import ExternalFields.Proofs.Injection.Remarking

/-!
# Marks written out

A field without a mark looks into the schema of the closest marked field above it, and is left as it
is if that schema does not define it.  A field with a mark of its own must be defined.  These are
two different lookups; they agree where the inherited one succeeds, so the mark can be written at
such a field as well.

The marks written out also change what the fields further below inherit, but not to another schema:
the mark that is added is the one that was the closest already (`Occurrence.explicit_closest`).

* `Occurrence.explicit`: a field under the mark whose definition it takes.
* `definitionFor_explicit`, `Occurrence.explicit_completed`: it takes the same definition and
  becomes the same field.
* `injectAt_explicit`: the agreement, by induction over the trees.
* **`inject_explicit`**: the same for whole trees.
-/

namespace ExternalFields

variable {registered : Option Registry}

/-! ## Writing out one mark -/

/-- A field under the mark that its definition comes from: its own if it has one, the closest above
it if the schema defines the field, and none otherwise. -/
def Occurrence.explicit (registered : Option Registry) (o : Occurrence) : Field :=
  if o.field.ownSchema = none ∧ (o.definition? registered).isSome then
    { o.field with external := o.schema? }
  else o.field

/-- The trees in which every field that takes the definition of an inherited schema names that
schema itself. -/
def explicit (registered : Option Registry) (fields : List Field) : List Field :=
  prune (fun _ => true) (Occurrence.explicit registered) [] fields

/-- No mark that counts is empty. -/
lemma Occurrence.schema?_filter (o : Occurrence) :
    (o.schema?.filter fun schema => !schema.isEmpty) = o.schema? := by
  cases found : o.schema? with
  | none => rfl
  | some schema =>
      obtain ⟨field, -, own⟩ := List.exists_of_findSome?_eq_some found
      have counts := (Option.filter_eq_some_iff.mp own).2
      rw [Option.filter_some, if_pos counts]

/-- Either nothing is written at a field, or it has no mark, the closest one above it names a schema
that defines it, and that mark is written. -/
lemma Occurrence.explicit_cases (registered : Option Registry) (o : Occurrence) :
    o.explicit registered = o.field ∨
      ∃ schema definition, o.field.ownSchema = none ∧ o.schema? = some schema ∧
        importDefinition registered schema o.path = .ok definition ∧
        (o.explicit registered).ownSchema = some schema ∧
        o.explicit registered = { o.field with external := some schema } := by
  by_cases inherits : o.field.ownSchema = none ∧ (o.definition? registered).isSome
  · have written : o.explicit registered = { o.field with external := o.schema? } :=
      if_pos inherits
    obtain ⟨unmarked, defined⟩ := inherits
    obtain ⟨definition, defined⟩ := Option.isSome_iff_exists.mp defined
    obtain ⟨registry, schema, definitions, rfl, closest, known, found⟩ :=
      Occurrence.definition?_eq_some.mp defined
    have imported : importDefinition (some registry) schema o.path = .ok definition :=
      importDefinition_ok.mpr ⟨registry, definitions, rfl, known, found⟩
    have marked : (o.explicit (some registry)).ownSchema = some schema := by
      rw [written, Field.ownSchema, Occurrence.schema?_filter, closest]
    exact .inr ⟨schema, definition, unmarked, closest, imported, marked, by rw [written, closest]⟩
  · exact .inl (if_neg inherits)

@[simp] lemma Occurrence.explicit_name (o : Occurrence) :
    (o.explicit registered).name = o.field.name := by
  rw [Occurrence.explicit]
  split <;> rfl

/-- The closest mark is the same with and without the marks written out. -/
lemma Occurrence.explicit_closest (o : Occurrence) :
    (o.explicit registered).ownSchema.or (o.above.findSome? Field.ownSchema) = o.schema? := by
  rw [Occurrence.schema?, Occurrence.line, ← ownSchema_or_inherited]
  rcases o.explicit_cases registered with same | ⟨schema, _, unmarked, closest, -, marked, -⟩
  · rw [same]
  · rw [Occurrence.schema?_of_not_own unmarked] at closest
    rw [marked, unmarked, closest]
    rfl

/-- **The two lookups agree**: where a mark is written, the field is defined, so it does no harm that
it now has to be. -/
lemma definitionFor_explicit (o : Occurrence) :
    definitionFor registered (o.above.findSome? Field.ownSchema) o.path (o.explicit registered)
      = definitionFor registered (o.above.findSome? Field.ownSchema) o.path o.field := by
  rcases o.explicit_cases registered with
    same | ⟨schema, definition, unmarked, closest, imported, marked, -⟩
  · rw [same]
  · have mandatory : ∀ inherited, definitionFor registered inherited o.path (o.explicit registered)
        = some <$> importDefinition registered schema o.path := by
      intro inherited
      simp only [definitionFor, marked]
    rw [mandatory, definitionFor_of_not_own unmarked, ← Occurrence.schema?_of_not_own unmarked,
      closest, Option.bind_some, imported]
    rfl

/-- A field that takes a definition loses its mark, so it does not matter whether there was one. -/
lemma Occurrence.explicit_completed {o : Occurrence} {definition? : Option Definition}
    (taken : definitionFor registered (o.above.findSome? Field.ownSchema) o.path o.field
      = .ok definition?) :
    (o.explicit registered).completed definition? = o.field.completed definition? := by
  obtain ⟨rfl, -⟩ := (definitionFor_ok o).mp taken
  rcases o.explicit_cases registered with
    same | ⟨schema, definition, -, closest, imported, -, written⟩
  · rw [same]
  · have defined : o.definition? registered = some definition := by
      rw [Occurrence.definition?_eq, closest, Option.bind_some, imported]
      rfl
    rw [defined, written]
    rfl

/-! ## Writing out all of them -/

/-- What is looked up for a field does not depend on what stands below it. -/
lemma definitionFor_below (inherited : Option Text) (path : Text) (field : Field)
    (below? : Option (List Field)) :
    definitionFor registered inherited path { field with fields := below? }
      = definitionFor registered inherited path field := rfl

/-- Completing a field does not depend on what stands below it. -/
lemma Field.completed_below (field : Field) (definition? : Option Definition)
    (below? : Option (List Field)) :
    Field.completed { field with fields := below? } definition?
      = { field.completed definition? with fields := below? } := by
  cases definition? <;> rfl

/-- Injecting trees with their marks written out gives what injecting the trees gives, failures
included.  They may stand below other fields than before, if these have the same path and the same
closest mark. -/
lemma injectAt_explicit (fields : List Field) :
    ∀ {above newAbove : List Field}, linePath newAbove = linePath above →
      newAbove.findSome? Field.ownSchema = above.findSome? Field.ownSchema →
      injectAt registered newAbove
          (prune (fun _ => true) (Occurrence.explicit registered) above fields)
        = injectAt registered above fields := by
  induction fields using Field.forest_induction with
  | nil => intros; rfl
  | cons field rest _ ih_below ih_rest =>
      intro above newAbove path_eq closest_eq
      rw [prune_cons, if_pos rfl, List.singleton_append]
      generalize marked_eq : { (⟨field, above⟩ : Occurrence).explicit registered with
        fields := field.fields.map
          (prune (fun _ => true) (Occurrence.explicit registered) (field :: above)) } = marked
      have name_eq : marked.name = field.name := by
        rw [← marked_eq]
        exact Occurrence.explicit_name _
      have path_below : linePath (marked :: newAbove) = linePath (field :: above) := by
        rw [linePath_cons, linePath_cons, path_eq, name_eq]
      have closest_below : (marked :: newAbove).findSome? Field.ownSchema
          = (field :: above).findSome? Field.ownSchema := by
        rw [← ownSchema_or_inherited, closest_eq, ← marked_eq]
        exact Occurrence.explicit_closest ⟨field, above⟩
      have below_marked : marked.fields.getD []
          = prune (fun _ => true) (Occurrence.explicit registered) (field :: above)
              (field.fields.getD []) := by
        rw [← marked_eq, ← getD_map_prune]
      have lookup_eq : definitionFor registered (newAbove.findSome? Field.ownSchema)
            (Occurrence.path ⟨marked, newAbove⟩) marked
          = definitionFor registered (above.findSome? Field.ownSchema)
              (Occurrence.path ⟨field, above⟩) field := by
        rw [closest_eq, Occurrence.path, Occurrence.line, path_below, ← marked_eq,
          definitionFor_below]
        exact definitionFor_explicit ⟨field, above⟩
      rw [injectAt_cons, injectAt_cons, lookup_eq, below_marked,
        ih_below path_below closest_below, ih_rest path_eq closest_eq]
      cases taken : definitionFor registered (above.findSome? Field.ownSchema)
          (Occurrence.path ⟨field, above⟩) field with
      | error e => rfl
      | ok definition? =>
          have completed_eq : ∀ below, (marked.completed definition?).withBelow below
              = (field.completed definition?).withBelow below := by
            intro below
            rw [← marked_eq, Field.completed_below,
              Occurrence.explicit_completed (o := ⟨field, above⟩) taken]
            simp only [Field.withBelow, Field.completed_fields, Option.map_map]
            rfl
          simp only [ok_bind, completed_eq]

/-- **Inherited marks agree with explicit ones.**  Let every field that has no mark of its own, but
is defined by the schema of the closest marked field above it, be given that mark.  Injection of
the new tree has the same outcome as injection of the old one: the same fields and the same report
of a change, or the same error. -/
theorem inject_explicit (registered : Option Registry) (fields : List Field) :
    inject registered (explicit registered fields) = inject registered fields := by
  rw [inject_eq, inject_eq, explicit, injectAt_explicit fields rfl rfl]

/-! ## An example -/

/-- The fields of hosts: the schema of the group defines its address, but not its origin. -/
example : explicit (some hostRegistry) [
      { name := "host", external := some "ecs", fields := some [
        { name := "name" }, { name := "origin" }] }]
    = [{ name := "host", external := some "ecs", fields := some [
        { name := "name", external := some "ecs" }, { name := "origin" }] }] := rfl

end ExternalFields
