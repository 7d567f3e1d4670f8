import ExternalFields.Proofs.Definition.Named
import ExternalFields.Proofs.Field.RoundTrip
import ExternalFields.Proofs.Injection.Content

/-!
# Injecting again

An injected tree has nothing left to do: no field is marked and no group is empty
(`settled_of_injects`), and such trees pass through injection unchanged, whatever schemas are
registered (`injectAt_settled`).  What fields and definitions have from being read, names and
unknown other attributes, is kept (`wellFormed_of_injects`), so that the result can be rendered and
read back in between.

* **`inject_idempotent`**: rendering the result, reading it back and injecting again gives it back.
-/

namespace ExternalFields

open Yaml

variable {registered : Option Registry}

/-! ## Well-formed fields stay well formed -/

/-- Every schema of the registry was read from the data of some document. -/
def Registry.Parsed (registry : Registry) : Prop :=
  ∀ entry ∈ registry.schemas, ∃ data, Definition.ofValue "" data = .ok entry.2

lemma Registry.Parsed.named {registry : Registry} (parsed : registry.Parsed) {schema : Text}
    {definitions : List Definition} (known : registry.definitions? schema = some definitions) :
    Definition.Named definitions := by
  rw [Registry.definitions?, List.lookup_eq_some_iff] at known
  obtain ⟨before, after, split, _⟩ := known
  obtain ⟨data, read⟩ := parsed (schema, definitions) (by simp [split])
  exact Definition.named_of_ofValue data read

/-- What a field takes from parsed schemas has names. -/
lemma Takes.named (parsed : ∀ registry, registered = some registry → registry.Parsed)
    {o : Occurrence} {definition : Definition} (taken : Takes registered o (some definition)) :
    Definition.Named [definition] := by
  cases taken with
  | own _ registry_eq known found | inherited _ _ registry_eq known found =>
      exact Definition.named_of_findAmong _ ((parsed _ registry_eq).named known) found

lemma ofDefinition_eq (definition : Definition) :
    Field.ofDefinition definition =
      { name := definition.name
        type := some definition.type
        description := Field.presentText definition.description
        pattern := Field.presentText definition.pattern
        index := definition.index
        docValues := definition.docValues
        normalize := definition.normalize
        multiFields := Field.ofDefinitions definition.multiFields } := by
  cases definition
  rfl

/-- Definitions with names make well-formed fields. -/
lemma wellFormed_ofDefinitions (definitions : List Definition) :
    Definition.Named definitions → Field.WellFormed (Field.ofDefinitions definitions) := by
  induction definitions using Definition.forest_induction with
  | nil => exact fun _ => .nil
  | cons definition rest ih_multi _ ih_rest =>
      intro named
      cases named with
      | cons name_ne multiFields _ others =>
          rw [Field.ofDefinitions, ofDefinition_eq]
          exact .cons name_ne (by simp) (ih_multi multiFields) .nil (ih_rest others)

/-- The multi-fields of a field stay well formed when it takes a definition. -/
lemma Takes.wellFormed_multiFields
    (parsed : ∀ registry, registered = some registry → registry.Parsed) {o : Occurrence}
    {definition? : Option Definition} (taken : Takes registered o definition?)
    (own : Field.WellFormed o.field.multiFields) :
    Field.WellFormed (o.field.completed definition?).multiFields := by
  cases definition? with
  | none => exact own
  | some definition =>
      rw [Field.completed, Field.overlay, ofDefinition_eq]
      simp only [Field.preferred]
      split
      · cases taken.named parsed with
        | cons _ multiFields _ _ => exact wellFormed_ofDefinitions _ multiFields
      · exact own

@[simp] lemma Field.completed_attributes (field : Field) (definition? : Option Definition) :
    (field.completed definition?).attributes = field.attributes := by
  cases definition? <;> rfl

/-- The fields below a field in the result are what came out of those below it. -/
lemma Injects.below_eq {above below : List Field} {fields? : Option (List Field)}
    (injects : Injects registered above (fields?.getD []) below) :
    (fields?.map fun _ => below).getD [] = below := by
  cases fields? with
  | none =>
      cases injects
      rfl
  | some _ => rfl

/-- **Injection keeps fields well formed**, if the schemas are parsed ones. -/
lemma wellFormed_of_injects (parsed : ∀ registry, registered = some registry → registry.Parsed)
    {above fields out : List Field} (injects : Injects registered above fields out) :
    Field.WellFormed fields → Field.WellFormed out := by
  induction injects with
  | nil => exact id
  | kept taken injects_below _ _ ih_below ih_rest =>
      intro wellFormed
      cases wellFormed with
      | cons named unknown multiFields below others =>
          refine .cons ?_ ?_ (taken.wellFormed_multiFields parsed multiFields) ?_ (ih_rest others)
          · simpa using named
          · simpa using unknown
          · rw [injects_below.below_eq]
            exact ih_below below
  | dropped _ _ _ _ _ ih_rest =>
      intro wellFormed
      cases wellFormed with
      | cons _ _ _ _ others => exact ih_rest others

/-! ## Nothing is left to do -/

/-- A field that asks for nothing: it is not marked, and if it is a group it groups something. -/
def Field.Settled (field : Field) : Prop :=
  field.ownSchema = none ∧ (field.isGroup → field.fields.getD [] ≠ [])

/-- A field is not marked any more once it has what it takes. -/
lemma Takes.ownSchema_completed {o : Occurrence} {definition? : Option Definition}
    (taken : Takes registered o definition?) :
    (o.field.completed definition?).ownSchema = none := by
  cases definition? with
  | none => exact taken.unmarked_of_none
  | some definition => rfl

/-- **Injected trees are settled** at every place. -/
lemma settled_of_injects {above fields out : List Field}
    (injects : Injects registered above fields out) :
    ∀ newAbove, ∀ o ∈ occurrences newAbove out, o.field.Settled := by
  induction injects with
  | nil => simp
  | kept taken injects_below held _ ih_below ih_rest =>
      intro newAbove o member
      rw [occurrences_cons, List.mem_cons, List.mem_append] at member
      rcases member with rfl | member | member
      · refine ⟨taken.ownSchema_completed, fun group => ?_⟩
        rw [injects_below.below_eq]
        exact held group
      · rw [injects_below.below_eq] at member
        exact ih_below _ o member
      · exact ih_rest newAbove o member
  | dropped _ _ _ _ _ ih_rest => exact ih_rest

/-- A field stands above its own fields already. -/
lemma Field.withBelow_getD (field : Field) : field.withBelow (field.fields.getD []) = field := by
  obtain ⟨_, _, _, _, _, _, _, _, _, _, fields⟩ := field
  cases fields <;> rfl

/-- A field that groups something if it is a group is kept. -/
lemma Field.kept_of_held {field : Field} (held : field.isGroup → field.fields.getD [] ≠ []) :
    field.kept = [field] := by
  rw [Field.kept, if_neg]
  intro vacant
  rw [Field.isVacant, Bool.and_eq_true] at vacant
  obtain ⟨group, empty⟩ := vacant
  have present := held group
  cases fields : field.fields with
  | none => simp [fields] at present
  | some children => simp_all

/-- **Settled trees pass through injection unchanged**, whatever is registered. -/
lemma injectAt_settled (fields : List Field) :
    ∀ {above : List Field}, above.findSome? Field.ownSchema = none →
      (∀ o ∈ occurrences above fields, o.field.Settled) →
      injectAt registered above fields = .ok (fields, false) := by
  induction fields using Field.forest_induction with
  | nil => intros; rfl
  | cons field rest _ ih_below ih_rest =>
      intro above unmarked settled
      simp only [occurrences_cons, List.mem_cons, List.mem_append] at settled
      obtain ⟨own, held⟩ := settled ⟨field, above⟩ (.inl rfl)
      have unmarked_below : (field :: above).findSome? Field.ownSchema = none := by
        rw [← ownSchema_or_inherited, own, unmarked]
        rfl
      have undefined : (⟨field, above⟩ : Occurrence).definition? registered = none := by
        have no_schema : (⟨field, above⟩ : Occurrence).schema? = none := unmarked_below
        cases registered <;> simp [Occurrence.definition?, no_schema]
      have resolved_eq : (⟨field, above⟩ : Occurrence).resolved registered = field := by
        rw [Occurrence.resolved, undefined]
        rfl
      have below_ok := ih_below unmarked_below (fun o h => settled o (.inr (.inl h)))
      have rest_ok := ih_rest unmarked (fun o h => settled o (.inr (.inr h)))
      refine injectAt_cons_ok.mpr ⟨_, _, _, _, ?_, below_ok, rest_ok, ?_, ?_⟩
      · simp [own]
      · rw [resolved_eq, field.withBelow_getD, Field.kept_of_held held]
        rfl
      · rw [undefined]
        rfl

/-- **Injection is idempotent through rendering and reading.**  If injection with parsed schemas
succeeds on the fields of a document, then in the result no field at any depth is marked and no
group is without fields; and the result, rendered and read back, is itself again, which injection
with any schemas whatsoever leaves unchanged and reports as unchanged. -/
theorem inject_idempotent {data : Value} {fields : List Field} {result : Injected}
    (parsed : ∀ registry, registered = some registry → registry.Parsed)
    (read : Field.ofValue "" data = .ok fields)
    (injected : inject registered fields = .ok result) :
    (∀ o ∈ occurrences [] result.fields,
        o.field.ownSchema = none ∧ (o.field.isGroup → o.field.fields.getD [] ≠ [])) ∧
      Field.ofValue "" (.list (Field.toValues result.fields) none) = .ok result.fields ∧
      ∀ other : Option Registry,
        inject other result.fields = .ok { fields := result.fields, changed := false } := by
  have injects := injects_of_injectAt fields (inject_ok.mp injected)
  have settled := settled_of_injects injects []
  refine ⟨settled, ?_, fun other => ?_⟩
  · exact ofItems_toValues result.fields
      (wellFormed_of_injects parsed injects (wellFormed_of_ofValue data read)) ""
  · exact inject_ok.mpr (injectAt_settled result.fields rfl settled)

/-! ## The example, from documents -/

/-- A mapping of text keys. -/
def record (entries : List (Text × Value)) : Value :=
  .mapping (entries.map fun entry => (.text entry.1, entry.2)) none

/-- The document of the first schema of the example. -/
def ecsDocument : Value :=
  .list [
    record [("name", .text "host"), ("type", .text "group"), ("fields", .list [
      record [("name", .text "name"), ("type", .text "keyword"),
        ("description", .text "Name of the host."),
        ("multi_fields", .list [
          record [("name", .text "text"), ("type", .text "match_only_text")]] none)],
      record [("name", .text "os"), ("type", .text "group")]] none)],
    record [("name", .text "host.ip.v4"), ("type", .text "ip")]] none

/-- The document of the second schema of the example. -/
def cloudDocument : Value :=
  .list [record [("name", .text "host.region"), ("type", .text "keyword")]] none

/-- The fields document of the example. -/
def hostDocument : Value :=
  .list [
    record [("name", .text "host"), ("external", .text "ecs"), ("fields", .list [
      record [("name", .text "name"), ("type", .text "constant_keyword")],
      record [("name", .text "os")],
      record [("name", .text "ip"), ("type", .text "group"), ("fields", .list [
        record [("name", .text "v4")]] none)],
      record [("name", .text "region"), ("external", .text "cloud")],
      record [("name", .text "empty"), ("type", .text "group"), ("fields", .list [] none)]]
        none)],
    record [("name", .text "tags"), ("type", .text "keyword"), ("level", .text "core")]] none

/-- The schemas of the example are those of their documents. -/
lemma hostRegistry_parsed : hostRegistry.Parsed := by
  intro entry member
  simp only [hostRegistry, List.mem_cons, List.not_mem_nil, or_false] at member
  rcases member with rfl | rfl
  · exact ⟨ecsDocument, rfl⟩
  · exact ⟨cloudDocument, rfl⟩

/-- The fields of hosts, once injected, stay the same with no schemas at all. -/
theorem inject_idempotent_host :
    hostRegistry.Parsed ∧ Field.ofValue "" hostDocument = .ok hostFields ∧
      inject (some hostRegistry) hostFields = .ok hostInjected ∧
      Field.ofValue "" (.list (Field.toValues hostInjected.fields) none)
        = .ok hostInjected.fields ∧
      inject none hostInjected.fields = .ok { fields := hostInjected.fields, changed := false } := by
  have again := @inject_idempotent (some hostRegistry) hostDocument hostFields hostInjected
    (fun _ h => Option.some.inj h ▸ hostRegistry_parsed) rfl rfl
  exact ⟨hostRegistry_parsed, rfl, rfl, again.2.1, again.2.2 none⟩

end ExternalFields
