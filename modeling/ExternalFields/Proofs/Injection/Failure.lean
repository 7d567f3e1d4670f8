import ExternalFields.Proofs.Field.RoundTrip
import ExternalFields.Proofs.Injection.Content

/-!
# When injection fails

Only a field that is marked itself can make injection fail, and whether it does is a matter of its
place alone (`Occurrence.Fails`).  The walk takes the definition of a field before it goes below the
field, and goes below it before it goes on; so the first failing place in document order is the one
that is reported (`failureOf?_injectAt`).  Groups are left out on the way back only, too late to
hide a failure inside them.

* **`inject_error_iff`**: injection fails exactly if some place fails, and then like the first one.
-/

namespace ExternalFields

variable {registered : Option Registry}

/-! ## Places that fail -/

/-- Why the definition of a field that is marked itself cannot be had: there are no dependencies at
all, the schema of the mark is not among them, or that schema defines nothing at the path. -/
inductive Occurrence.Fails (registered : Option Registry) (o : Occurrence) : ImportError → Prop
  | notAllowed {schema : Text} (mark : o.field.ownSchema = some schema)
      (no_registry : registered = none) :
      Fails registered o (.notAllowed o.path)
  | notRegistered {schema : Text} {registry : Registry} (mark : o.field.ownSchema = some schema)
      (registry_eq : registered = some registry)
      (unknown : registry.definitions? schema = none) :
      Fails registered o (.notRegistered schema)
  | notDefined {schema : Text} {registry : Registry} {definitions : List Definition}
      (mark : o.field.ownSchema = some schema) (registry_eq : registered = some registry)
      (known : registry.definitions? schema = some definitions)
      (missing : Definition.find? definitions o.path = none) :
      Fails registered o (.notDefined o.path)

/-- A field that is not marked itself does not fail. -/
lemma Occurrence.Fails.marked {o : Occurrence} {e : ImportError} (fails : o.Fails registered e) :
    o.field.ownSchema.isSome := by
  cases fails with
  | notAllowed mark _ | notRegistered mark _ _ | notDefined mark _ _ _ => simp [mark]

/-- The failure of a place, if it fails. -/
def Occurrence.failure? (registered : Option Registry) (o : Occurrence) : Option ImportError :=
  o.field.ownSchema.bind fun schema => failureOf? (importDefinition registered schema o.path)

/-- Importing fails by one of three causes. -/
lemma importDefinition_error {schema path : Text} {e : ImportError} :
    importDefinition registered schema path = .error e ↔
      (registered = none ∧ e = .notAllowed path) ∨
      ∃ registry, registered = some registry ∧
        ((registry.definitions? schema = none ∧ e = .notRegistered schema) ∨
          ∃ definitions, registry.definitions? schema = some definitions ∧
            Definition.find? definitions path = none ∧ e = .notDefined path) := by
  cases registered with
  | none => simp [importDefinition, eq_comm]
  | some registry =>
      cases known : registry.definitions? schema with
      | none => simp [importDefinition, known, eq_comm]
      | some definitions =>
          cases found : Definition.find? definitions path <;>
            simp [importDefinition, known, found, eq_comm]

lemma Occurrence.failure?_eq_some {o : Occurrence} {e : ImportError} :
    o.failure? registered = some e ↔ o.Fails registered e := by
  rw [Occurrence.failure?, Option.bind_eq_some_iff]
  simp only [failureOf?_eq_some, importDefinition_error]
  constructor
  · rintro ⟨schema, mark, ⟨no_registry, rfl⟩ | ⟨registry, registry_eq, ⟨unknown, rfl⟩ |
      ⟨definitions, known, missing, rfl⟩⟩⟩
    · exact .notAllowed mark no_registry
    · exact .notRegistered mark registry_eq unknown
    · exact .notDefined mark registry_eq known missing
  · intro fails
    cases fails with
    | notAllowed mark no_registry => exact ⟨_, mark, .inl ⟨no_registry, rfl⟩⟩
    | notRegistered mark registry_eq unknown =>
        exact ⟨_, mark, .inr ⟨_, registry_eq, .inl ⟨unknown, rfl⟩⟩⟩
    | notDefined mark registry_eq known missing =>
        exact ⟨_, mark, .inr ⟨_, registry_eq, .inr ⟨_, known, missing, rfl⟩⟩⟩

/-! ## The walk -/

/-- Taking the definition of a field fails if and as its place does. -/
lemma failureOf?_definitionFor (registered : Option Registry) (o : Occurrence) :
    failureOf? (definitionFor registered (o.above.findSome? Field.ownSchema) o.path o.field)
      = o.failure? registered := by
  cases own : o.field.ownSchema with
  | some schema =>
      simp only [definitionFor, Occurrence.failure?, own, Option.bind_some, failureOf?_map]
  | none =>
      rw [definitionFor_of_not_own own, Occurrence.failure?, own]
      rfl

/-- **The first place that fails** is the one that injection fails with. -/
lemma failureOf?_injectAt (registered : Option Registry) (fields : List Field) :
    ∀ above : List Field, failureOf? (injectAt registered above fields)
      = (occurrences above fields).findSome? (Occurrence.failure? registered) := by
  induction fields using Field.forest_induction with
  | nil => intro above; rfl
  | cons field rest _ ih_below ih_rest =>
      intro above
      have here := failureOf?_definitionFor registered ⟨field, above⟩
      rw [injectAt_cons, occurrences_cons, List.findSome?_cons, List.findSome?_append, ← here,
        ← ih_below, ← ih_rest]
      cases definitionFor registered (above.findSome? Field.ownSchema)
          (Occurrence.path ⟨field, above⟩) field with
      | error e => rfl
      | ok definition? =>
          cases injectAt registered (field :: above) (field.fields.getD []) with
          | error e => rfl
          | ok below => cases injectAt registered above rest <;> rfl

/-- Every field of a well-formed tree has a name. -/
lemma Field.WellFormed.names {fields : List Field} (wellFormed : Field.WellFormed fields) :
    ∀ above, ∀ o ∈ ExternalFields.occurrences above fields, o.field.name ≠ [] := by
  induction wellFormed with
  | nil => simp
  | cons named _ _ _ _ _ ih_below ih_rest =>
      intro above o member
      rw [occurrences_cons, List.mem_cons, List.mem_append] at member
      rcases member with rfl | member | member
      · exact named
      · exact ih_below _ o member
      · exact ih_rest _ o member

/-- **When injection fails, and with what.**  It fails with an error exactly if a place fails with
it and no place before that one in document order fails; so it fails exactly if any place fails,
which takes a mark of the field itself, inside groups that would be left out too.  Among fields read
from a document, the path that an error names is made of all names on the way from the top. -/
theorem inject_error_iff (registered : Option Registry) (fields : List Field) :
    (∀ e, inject registered fields = .error e ↔
      ∃ before o after, occurrences [] fields = before ++ o :: after ∧ o.Fails registered e ∧
        ∀ earlier ∈ before, ∀ other, ¬ earlier.Fails registered other) ∧
    ((∃ e, inject registered fields = .error e) ↔
      ∃ o ∈ occurrences [] fields, o.field.ownSchema.isSome ∧ ∃ e, o.Fails registered e) ∧
    (∀ enclosing data, Field.ofValue enclosing data = .ok fields →
      ∀ o ∈ occurrences [] fields, o.path = List.intercalate "." (lineNames o.line)) := by
  have first : failureOf? (inject registered fields)
      = (occurrences [] fields).findSome? (Occurrence.failure? registered) := by
    rw [inject_eq, failureOf?_map, failureOf?_injectAt]
  refine ⟨fun e => ?_, ?_, fun enclosing data read o member => ?_⟩
  · rw [← failureOf?_eq_some, first, List.findSome?_eq_some_iff]
    simp only [Occurrence.failure?_eq_some, Option.eq_none_iff_forall_ne_some, ne_eq]
  · have some_fails : (∃ e, inject registered fields = .error e) ↔
        ∃ o ∈ occurrences [] fields, ∃ e, o.Fails registered e := by
      simp only [← failureOf?_eq_some, first, ← Occurrence.failure?_eq_some,
        ← Option.isSome_iff_exists, List.findSome?_isSome_iff]
    rw [some_fails]
    refine exists_congr fun o => and_congr_right fun _ => ⟨?_, And.right⟩
    rintro ⟨e, fails⟩
    exact ⟨fails.marked, e, fails⟩
  · have named := (wellFormed_of_ofValue data read).names []
    exact linePath_eq_intercalate o.line (names_of_occurrences (by simp) named o member)

/-! ## An example -/

/-- Fields of hosts that cannot all be imported: the first one below the mark stays local, the next
one stands in a group and fails, and so does the last one. -/
def refusedFields : List Field := [
  { name := "host", external := some "ecs", fields := some [
    { name := "uptime", type := some "long" },
    { name := "ip", type := some "group", fields := some [
      { name := "v6.prefix", external := some "ecs" }] }] },
  { name := "cloud", external := some "gcp" }]

/-- The field in the group is the one that is reported, by its whole path. -/
theorem inject_error_iff_refused :
    inject (some hostRegistry) refusedFields = .error (.notDefined "host.ip.v6.prefix") ∧
      ∃ before o after, occurrences [] refusedFields = before ++ o :: after ∧
        o.Fails (some hostRegistry) (.notDefined "host.ip.v6.prefix") ∧
        ∀ earlier ∈ before, ∀ other, ¬ earlier.Fails (some hostRegistry) other :=
  ⟨rfl, ((inject_error_iff (some hostRegistry) refusedFields).1 _).mp rfl⟩

end ExternalFields
