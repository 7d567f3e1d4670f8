import ExternalFields.Definition.Basic
import ExternalFields.Field.Overlay
import ExternalFields.FieldPath

/-!
# Injection

Injection replaces the fields of a package that are marked as external by the definitions of the
schemas they name. A marked field must be defined there; the fields below it look into the same
schema, but stay as they are if it does not define them. Groups that end up without fields are
left out.

* **`Registry`**: the schemas that a package depends on
* **`importDefinition`**: the definition of a marked field
* **`inject`**: the injected tree, and whether anything was imported
-/

namespace ExternalFields

/-! ## Registered schemas -/

/-- The schemas that a package depends on, by name. -/
structure Registry where
  schemas : List (Text × List Definition) := []
  deriving Repr, Inhabited

/-- The definitions of a registered schema. -/
def Registry.definitions? (registry : Registry) (schema : Text) : Option (List Definition) :=
  registry.schemas.lookup schema

/-- Registers a schema; one of the same name gives way. -/
def Registry.insert (registry : Registry) (schema : Text) (definitions : List Definition) :
    Registry :=
  ⟨(schema, definitions) :: registry.schemas.filter fun entry => entry.1 != schema⟩

/-- Why a marked field cannot be imported. -/
inductive ImportError where
  /-- The package declares no dependencies at all. -/
  | notAllowed (path : Text)
  /-- The package does not depend on the schema. -/
  | notRegistered (schema : Text)
  /-- The schema has no definition for the path. -/
  | notDefined (path : Text)
  deriving DecidableEq, Repr

/-- The wording of an error. -/
def ImportError.message : ImportError → Text
  | .notAllowed path =>
    "importing external field \"" ++ path ++ "\": external fields not allowed because "
      ++ "dependencies file "
      ++ "\"_dev/build/build.yml\" is missing"
  | .notRegistered schema => "schema \"" ++ schema ++ "\" is not defined as package dependency"
  | .notDefined path => "field definition not found in schema (name: " ++ path ++ ")"

/-- The definition at a path of a schema. Without a registry nothing can be imported. -/
def importDefinition (registered : Option Registry) (schema path : Text) :
    Except ImportError Definition :=
  match registered with
  | none => .error (.notAllowed path)
  | some registry =>
    match registry.definitions? schema with
    | none => .error (.notRegistered schema)
    | some definitions =>
      match Definition.find? definitions path with
      | none => .error (.notDefined path)
      | some definition => .ok definition

/-! ## Injecting trees -/

/-- The schema that a field names itself: an empty mark is no mark. -/
def Field.ownSchema (field : Field) : Option Text :=
  field.external.filter fun schema => !schema.isEmpty

/-- The definition that the field at `path` takes, given the schema that it inherits from the
closest marked field above. Only a mark of its own makes a missing definition an error. -/
def definitionFor (registered : Option Registry) (inherited : Option Text) (path : Text)
    (field : Field) : Except ImportError (Option Definition) :=
  match field.ownSchema with
  | some schema => some <$> importDefinition registered schema path
  | none =>
    match inherited, registered with
    | some schema, some registry =>
      .ok (Definition.find? ((registry.definitions? schema).getD []) path)
    | _, _ => .ok none

/-- A field completed by its definition, if it takes one. -/
def Field.completed (field : Field) : Option Definition → Field
  | some definition => field.overlay definition
  | none => field

mutual

/-- The field that takes the place of a field under the path `root`, nothing if it is left out,
and whether anything was imported in it. -/
def injectField (registered : Option Registry) (inherited : Option Text) (root : Text) :
    Field → Except ImportError (Option Field × Bool)
  | ⟨name, type, external, description, pattern, index, docValues, normalize, multiFields,
      attributes, fields⟩ => do
    let field : Field := ⟨name, type, external, description, pattern, index, docValues, normalize,
      multiFields, attributes, fields⟩
    let path := FieldPath.join root name
    let definition? ← definitionFor registered inherited path field
    let (children, changed) ←
      injectChildren registered (field.ownSchema.or inherited) path fields
    let result := { field.completed definition? with fields := children }
    return (if result.isVacant then none else some result, definition?.isSome || changed)

/-- The injected fields below a field. -/
def injectChildren (registered : Option Registry) (inherited : Option Text) (root : Text) :
    Option (List Field) → Except ImportError (Option (List Field) × Bool)
  | none => .ok (none, false)
  | some fields => do
    let (injected, changed) ← injectFields registered inherited root fields
    return (some injected, changed)

/-- The injected fields of a list. -/
def injectFields (registered : Option Registry) (inherited : Option Text) (root : Text) :
    List Field → Except ImportError (List Field × Bool)
  | [] => .ok ([], false)
  | field :: rest => do
    let (first?, firstChanged) ← injectField registered inherited root field
    let (others, othersChanged) ← injectFields registered inherited root rest
    return (first?.toList ++ others, firstChanged || othersChanged)

end

/-- An injected tree, and whether any definition was imported into it. -/
structure Injected where
  fields : List Field
  changed : Bool
  deriving Repr, Inhabited

/-- Replaces the marked fields of a tree by their definitions. The first field that cannot be
imported aborts the injection. -/
def inject (registered : Option Registry) (fields : List Field) : Except ImportError Injected := do
  let (fields, changed) ← injectFields registered none "" fields
  return { fields, changed }

end ExternalFields
