import ExternalFields.Proofs.Field.Occurrence

/-!
# One step of injection

Injection walks down a tree with a path and an inherited schema at hand.  Both are functions of the
fields above, so `injectAt` states the walk over these; `injectAt_cons` is its one step, and the
only place where the recursion is unfolded.

A field is completed by what its place defines (`Occurrence.definition?`); the only difference a
mark of its own makes is that a definition must then be there (`definitionFor_ok`).
-/

namespace ExternalFields

variable {registered : Option Registry}

/-! ## The definition of a field -/

/-- Importing succeeds exactly with what a registered schema defines at the path. -/
lemma importDefinition_ok {schema path : Text} {definition : Definition} :
    importDefinition registered schema path = .ok definition ↔
      ∃ registry definitions, registered = some registry ∧
        registry.definitions? schema = some definitions ∧
        Definition.find? definitions path = some definition := by
  cases registered with
  | none => simp [importDefinition]
  | some registry =>
      cases known : registry.definitions? schema with
      | none => simp [importDefinition, known]
      | some definitions =>
          cases found : Definition.find? definitions path <;>
            simp [importDefinition, known, found]

/-- A mark of the field itself is the closest one. -/
lemma Occurrence.schema?_of_own {o : Occurrence} {schema : Text}
    (own : o.field.ownSchema = some schema) : o.schema? = some schema := by
  simp [Occurrence.schema?, Occurrence.line, own]

/-- Without a mark of its own a field has that of the fields above it. -/
lemma Occurrence.schema?_of_not_own {o : Occurrence} (own : o.field.ownSchema = none) :
    o.schema? = o.above.findSome? Field.ownSchema := by
  simp [Occurrence.schema?, Occurrence.line, own]

/-- The schema that the fields below a field inherit is the closest mark on their line. -/
lemma ownSchema_or_inherited (field : Field) (above : List Field) :
    field.ownSchema.or (above.findSome? Field.ownSchema)
      = (field :: above).findSome? Field.ownSchema := by
  rw [List.findSome?_cons]
  cases field.ownSchema <;> rfl

/-- The definition at a place, by the schema that applies there. -/
lemma Occurrence.definition?_eq_some {o : Occurrence} {definition : Definition} :
    o.definition? registered = some definition ↔
      ∃ registry schema definitions, registered = some registry ∧ o.schema? = some schema ∧
        registry.definitions? schema = some definitions ∧
        Definition.find? definitions o.path = some definition := by
  cases registered <;> simp [Occurrence.definition?, Option.bind_eq_some_iff]

/-- What can be imported is what a registered schema defines at the path, if it defines anything. -/
lemma importDefinition_toOption (schema path : Text) :
    (importDefinition registered schema path).toOption
      = registered.bind fun registry => (registry.definitions? schema).bind fun definitions =>
          Definition.find? definitions path := by
  cases registered with
  | none => rfl
  | some registry =>
      simp only [importDefinition, Option.bind_some]
      cases registry.definitions? schema with
      | none => rfl
      | some definitions =>
          simp only [Option.bind_some]
          cases Definition.find? definitions path <;> rfl

/-- The definition at a place is what can be imported there by the closest mark. -/
lemma Occurrence.definition?_eq (o : Occurrence) :
    o.definition? registered
      = o.schema?.bind fun schema => (importDefinition registered schema o.path).toOption := by
  simp only [importDefinition_toOption]
  cases registered with
  | none => cases o.schema? <;> rfl
  | some registry => rfl

/-- A field that is not marked itself takes what can be imported from the schema it inherits. -/
lemma definitionFor_of_not_own {inherited : Option Text} {path : Text} {field : Field}
    (own : field.ownSchema = none) :
    definitionFor registered inherited path field
      = .ok (inherited.bind fun schema => (importDefinition registered schema path).toOption) := by
  simp only [definitionFor, own, importDefinition_toOption]
  cases inherited with
  | none => rfl
  | some schema =>
      cases registered with
      | none => rfl
      | some registry =>
          simp only [Option.bind_some]
          cases registry.definitions? schema <;> rfl

/-- **The definition that a field takes** is the one its place has.  If the field is marked itself
there must be one. -/
lemma definitionFor_ok (o : Occurrence) {definition? : Option Definition} :
    definitionFor registered (o.above.findSome? Field.ownSchema) o.path o.field
        = .ok definition? ↔
      definition? = o.definition? registered ∧
        (o.field.ownSchema.isSome → definition?.isSome) := by
  cases own : o.field.ownSchema with
  | some schema =>
      have place : ∀ definition, o.definition? registered = some definition ↔
          importDefinition registered schema o.path = .ok definition := by
        intro definition
        rw [Occurrence.definition?_eq_some, importDefinition_ok]
        simp [Occurrence.schema?_of_own own]
      simp only [definitionFor, own, map_eq_ok, Option.isSome_some, forall_true_left]
      constructor
      · rintro ⟨definition, imported, rfl⟩
        exact ⟨((place definition).mpr imported).symm, rfl⟩
      · rintro ⟨rfl, there⟩
        obtain ⟨definition, found⟩ := Option.isSome_iff_exists.mp there
        exact ⟨definition, (place definition).mp found, found.symm⟩
  | none =>
      rw [definitionFor_of_not_own own, ← Occurrence.schema?_of_not_own own,
        ← Occurrence.definition?_eq, Except.ok.injEq]
      exact ⟨fun h => ⟨h.symm, by simp⟩, fun h => h.1.symm⟩

/-! ## The walk -/

/-- The same field above other fields, unless it has no list of fields at all. -/
def Field.withBelow (field : Field) (below : List Field) : Field :=
  { field with fields := field.fields.map fun _ => below }

@[simp] lemma Field.completed_name (field : Field) (definition? : Option Definition) :
    (field.completed definition?).name = field.name := by
  cases definition? <;> rfl

@[simp] lemma Field.completed_fields (field : Field) (definition? : Option Definition) :
    (field.completed definition?).fields = field.fields := by
  cases definition? <;> rfl

/-- The list of a field alone, empty if the field groups no fields and is left out. -/
def Field.kept (field : Field) : List Field :=
  if field.isVacant then [] else [field]

/-- Injection of the fields of a list that stands below other fields. -/
def injectAt (registered : Option Registry) (above fields : List Field) :
    Except ImportError (List Field × Bool) :=
  injectFields registered (above.findSome? Field.ownSchema) (linePath above) fields

lemma inject_eq (fields : List Field) :
    inject registered fields
      = (fun out => { fields := out.1, changed := out.2 }) <$> injectAt registered [] fields := rfl

/-- Injection of a tree is that of a list below no other fields. -/
lemma inject_ok {fields : List Field} {result : Injected} :
    inject registered fields = .ok result ↔
      injectAt registered [] fields = .ok (result.fields, result.changed) := by
  rw [inject_eq]
  cases injectAt registered [] fields with
  | error e => simp [Functor.map, Except.map]
  | ok out =>
      obtain ⟨out, changed⟩ := out
      cases result
      simp [Functor.map, Except.map]

@[simp] lemma injectAt_nil (above : List Field) : injectAt registered above [] = .ok ([], false) :=
  rfl

/-- The fields below a field are injected as a list; a missing list stays missing. -/
lemma injectChildren_eq (inherited : Option Text) (root : Text) (fields? : Option (List Field)) :
    injectChildren registered inherited root fields?
      = (fun out => (fields?.map fun _ => out.1, out.2))
          <$> injectFields registered inherited root (fields?.getD []) := by
  cases fields? with
  | none => rfl
  | some fields =>
      rw [injectChildren, Option.getD_some]
      cases injectFields registered inherited root fields <;> rfl

/-- Injection of one field, without its attributes written out. -/
lemma injectField_eq (inherited : Option Text) (root : Text) (field : Field) :
    injectField registered inherited root field = do
      let definition? ← definitionFor registered inherited (FieldPath.join root field.name) field
      let below ← injectFields registered (field.ownSchema.or inherited)
        (FieldPath.join root field.name) (field.fields.getD [])
      let result := (field.completed definition?).withBelow below.1
      return (if result.isVacant then none else some result, definition?.isSome || below.2) := by
  obtain ⟨name, type, external, description, pattern, index, docValues, normalize, multiFields,
    attributes, fields⟩ := field
  rw [injectField, injectChildren_eq]
  refine congrArg _ (funext fun definition? => ?_)
  simp only [Field.withBelow, Field.completed_fields]
  generalize injectFields registered _ _ _ = below
  cases below <;> rfl

/-- **One step of injection**: the field takes its definition, then the fields below it are
injected, then the fields after it; last it is left out if it groups no fields. -/
lemma injectAt_cons (above : List Field) (field : Field) (rest : List Field) :
    injectAt registered above (field :: rest) = do
      let definition? ← definitionFor registered (above.findSome? Field.ownSchema)
        (Occurrence.path ⟨field, above⟩) field
      let below ← injectAt registered (field :: above) (field.fields.getD [])
      let others ← injectAt registered above rest
      return (((field.completed definition?).withBelow below.1).kept ++ others.1,
        (definition?.isSome || below.2) || others.2) := by
  simp only [injectAt, injectFields, injectField_eq, ← ownSchema_or_inherited, Occurrence.path,
    Occurrence.line, linePath_cons, bind_assoc, pure_bind]
  refine congrArg _ (funext fun definition? => congrArg _ (funext fun below => congrArg _
    (funext fun others => ?_)))
  rw [Field.kept]
  split <;> rfl

/-- **Injection of a list of trees succeeds** exactly if every step does: the definition of the
first field, what is below it, and the fields after it. -/
lemma injectAt_cons_ok {above : List Field} {field : Field} {rest out : List Field}
    {changed : Bool} :
    injectAt registered above (field :: rest) = .ok (out, changed) ↔
      ∃ below belowChanged others othersChanged,
        (field.ownSchema.isSome → ((⟨field, above⟩ : Occurrence).definition? registered).isSome) ∧
        injectAt registered (field :: above) (field.fields.getD []) = .ok (below, belowChanged) ∧
        injectAt registered above rest = .ok (others, othersChanged) ∧
        out = (((⟨field, above⟩ : Occurrence).resolved registered).withBelow below).kept
          ++ others ∧
        changed = ((((⟨field, above⟩ : Occurrence).definition? registered).isSome || belowChanged)
          || othersChanged) := by
  have step : ∀ definition?, definitionFor registered (above.findSome? Field.ownSchema)
      (Occurrence.path ⟨field, above⟩) field = .ok definition? ↔ _ :=
    fun definition? => definitionFor_ok ⟨field, above⟩
  rw [injectAt_cons, bind_eq_ok]
  constructor
  · rintro ⟨definition?, taken, rest_ok⟩
    obtain ⟨rfl, there⟩ := (step definition?).mp taken
    simp only [bind_eq_ok, pure_eq_ok, Except.ok.injEq, Prod.mk.injEq] at rest_ok
    obtain ⟨⟨below, belowChanged⟩, below_ok, ⟨others, othersChanged⟩, others_ok, rfl, rfl⟩ :=
      rest_ok
    exact ⟨below, belowChanged, others, othersChanged, there, below_ok, others_ok, rfl, rfl⟩
  · rintro ⟨below, belowChanged, others, othersChanged, there, below_ok, others_ok, rfl, rfl⟩
    refine ⟨_, (step _).mpr ⟨rfl, there⟩, ?_⟩
    rw [below_ok, ok_bind, others_ok, ok_bind]
    rfl

end ExternalFields
