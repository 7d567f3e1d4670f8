import ExternalFields.Package
import ExternalFields.Proofs.Definition.Flattening
import ExternalFields.Proofs.Injection.Steps

/-!
# Nested and flat schemas in injection

A field takes from a definition everything but its name and what is below it.  So injection, and
with it the build of a package, is the same for registries that import the same apart from these
(`Agree`).  A schema and its flat form are such, if the schema is unambiguous.

* `Agree`: registries from which the same can be imported, in what a field takes of it.
* `Agree.injectAt_congr`, `Agree.buildFiles_congr`: they inject and build the same.
* **`inject_flatten`**: injection and builds with a schema and with its flat form.
-/

namespace ExternalFields

variable {registered registered' : Option Registry}

/-! ## What a field takes from a definition -/

/-- A field takes neither the name of a definition nor what is below it. -/
lemma Field.overlay_bare (definition : Definition) (field : Field) :
    field.overlay definition.bare = field.overlay definition := by
  cases definition
  rfl

lemma Field.completed_bare (field : Field) (definition? : Option Definition) :
    field.completed (definition?.map Definition.bare) = field.completed definition? := by
  cases definition? with
  | none => rfl
  | some definition => exact field.overlay_bare definition

/-- Registries that import the same definitions, apart from their names and what is below them, and
fail alike. -/
def Agree (registered registered' : Option Registry) : Prop :=
  ∀ schema path, Definition.bare <$> importDefinition registered schema path
    = Definition.bare <$> importDefinition registered' schema path

/-- Registering one of two schemas that define the same makes no difference. -/
lemma agree_insert {definitions definitions' : List Definition} (registry : Registry)
    (schema : Text)
    (same : ∀ path, (Definition.find? definitions path).map Definition.bare
      = (Definition.find? definitions' path).map Definition.bare) :
    Agree (some (registry.insert schema definitions))
      (some (registry.insert schema definitions')) := by
  intro other path
  simp only [importDefinition, Registry.definitions?, Registry.insert, List.lookup_cons]
  cases other == schema with
  | false => rfl
  | true =>
      have here := same path
      simp only
      cases found : Definition.find? definitions path <;>
        cases found' : Definition.find? definitions' path <;>
        simp_all [Functor.map, Except.map]

namespace Agree

/-- A field takes the same definition from registries that agree. -/
lemma definitionFor_congr (agree : Agree registered registered') (inherited : Option Text)
    (path : Text) (field : Field) :
    Option.map Definition.bare <$> definitionFor registered inherited path field
      = Option.map Definition.bare <$> definitionFor registered' inherited path field := by
  cases own : field.ownSchema with
  | some schema =>
      -- a definition that must be there is not optional before it is imported
      have bare_some : ∀ imported : Except ImportError Definition,
          Option.map Definition.bare <$> some <$> imported
            = some <$> Definition.bare <$> imported := fun imported => by cases imported <;> rfl
      simp only [definitionFor, own, bare_some, agree schema path]
  | none =>
      rw [definitionFor_of_not_own own, definitionFor_of_not_own own]
      cases inherited with
      | none => rfl
      | some schema =>
          have same := agree schema path
          cases imported : importDefinition registered schema path <;>
            cases imported' : importDefinition registered' schema path <;>
            simp_all [Functor.map, Except.map, Except.toOption]

/-- **Registries that agree inject the same**, or fail alike. -/
lemma injectAt_congr (agree : Agree registered registered') (fields : List Field) :
    ∀ above : List Field, injectAt registered above fields
      = injectAt registered' above fields := by
  induction fields using Field.forest_induction with
  | nil => intro above; rfl
  | cons field rest _ ih_below ih_rest =>
      intro above
      rw [injectAt_cons, injectAt_cons]
      refine bind_congr_of_map (agree.definitionFor_congr _ _ _)
        fun definition? definition?' same => ?_
      have completed_eq : field.completed definition? = field.completed definition?' := by
        rw [← field.completed_bare, same, field.completed_bare]
      have isSome_eq : definition?.isSome = definition?'.isSome := by
        simpa using congrArg Option.isSome same
      rw [ih_below, ih_rest, completed_eq, isSome_eq]

lemma inject_congr (agree : Agree registered registered') (fields : List Field) :
    inject registered fields = inject registered' fields := by
  rw [inject_eq, inject_eq, agree.injectAt_congr]

/-- Registries that agree build the same files. -/
lemma buildFiles_congr {σ : Type} (agree : Agree registered registered') (root output : Path)
    (paths : List Path) : ∀ world : World σ,
      Package.buildFiles registered root output paths world
        = Package.buildFiles registered' root output paths world := by
  have buildFile_eq : Package.buildFile (σ := σ) registered
      = Package.buildFile registered' := by
    funext source destination
    simp only [Package.buildFile, injectFile, agree.inject_congr]
  induction paths with
  | nil => intro world; rfl
  | cons path rest ih =>
      intro world
      simp only [Package.buildFiles, buildFile_eq, ih]

end Agree

/-- **Nested and flat schemas are interchangeable.**  If the paths of all definitions of a schema
differ and hold no `*`, then registering the schema or its flat form under a name makes no
difference: injection of any tree gives the same fields and the same report of a change, or the same
error, and builds of the files of a package write the same and end in the same way. -/
theorem inject_flatten {definitions : List Definition}
    (unambiguous : Definition.Unambiguous definitions) (registry : Registry) (schema : Text) :
    (∀ fields, inject (some (registry.insert schema (Definition.flatten definitions))) fields
      = inject (some (registry.insert schema definitions)) fields) ∧
    ∀ (σ : Type) (root output : Path) (paths : List Path) (world : World σ),
      Package.buildFiles (some (registry.insert schema (Definition.flatten definitions)))
        root output paths world
      = Package.buildFiles (some (registry.insert schema definitions))
        root output paths world := by
  have agree := agree_insert registry schema unambiguous.find?_flatten
  exact ⟨agree.inject_congr, fun σ => agree.buildFiles_congr⟩

/-! ## An example -/

/-- Fields of systems below a mark, one of them a multi-field in the schema, another one defined
there under a name with a dot. -/
def systemFields : List Field := [
  { name := "os", external := some "ecs", fields := some [
    { name := "name", fields := some [{ name := "text" }] },
    { name := "v", type := some "group", fields := some [{ name := "id" }] }] }]

/-- What the schema of systems makes of them, nested or flat. -/
def systemInjected : Injected where
  fields := [
    { name := "os", type := some "group", fields := some [
      { name := "name", type := some "keyword",
        multiFields := [{ name := "text", type := some "match_only_text" }],
        fields := some [{ name := "text", type := some "match_only_text" }] },
      { name := "v", type := some "group", fields := some [
        { name := "id", type := some "version" }] }] }]
  changed := true

/-- The schema of systems is unambiguous, and its flat form imports the same. -/
theorem inject_flatten_system :
    Definition.Unambiguous Definition.nestedSystem ∧
      inject (some (Registry.insert {} "ecs" Definition.nestedSystem)) systemFields
        = .ok systemInjected ∧
      inject (some (Registry.insert {} "ecs" (Definition.flatten Definition.nestedSystem)))
        systemFields = .ok systemInjected := by
  have unambiguous : Definition.Unambiguous Definition.nestedSystem := ⟨by decide, by decide⟩
  have nested : inject (some (Registry.insert {} "ecs" Definition.nestedSystem)) systemFields
      = .ok systemInjected := rfl
  have same := (inject_flatten unambiguous {} "ecs").1 systemFields
  exact ⟨unambiguous, nested, same.trans nested⟩

end ExternalFields
