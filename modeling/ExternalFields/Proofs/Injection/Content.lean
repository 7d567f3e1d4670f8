import ExternalFields.Proofs.Injection.Steps

/-!
# What an injected tree holds

`Injects` says which trees may come out of a list of trees, and how each of their fields comes
about, without any walk: `Takes` reads the definition of a field off its place, where the field's
own mark counts before the closest mark above, and where only a mark of its own requires that there
be a definition.  Children come from the local children alone.

* **`inject_content`**: what `inject` returns comes about in this way, and the paths that count are
  the names from the top down, joined by dots.
-/

namespace ExternalFields

variable {registered : Option Registry}

/-! ## Where the attributes of a field come from -/

/-- The definition that a field is completed by, if any.  There are four cases: the field's own
mark; the closest mark above, if its schema defines the path; such a mark, if it does not; and no
mark at all. -/
inductive Takes (registered : Option Registry) (o : Occurrence) : Option Definition → Prop
  | own {schema : Text} {registry : Registry} {definitions : List Definition}
      {definition : Definition} (mark : o.field.ownSchema = some schema)
      (registry_eq : registered = some registry)
      (known : registry.definitions? schema = some definitions)
      (found : Definition.find? definitions o.path = some definition) :
      Takes registered o (some definition)
  | inherited {schema : Text} {registry : Registry} {definitions : List Definition}
      {definition : Definition} (unmarked : o.field.ownSchema = none)
      (mark : o.above.findSome? Field.ownSchema = some schema)
      (registry_eq : registered = some registry)
      (known : registry.definitions? schema = some definitions)
      (found : Definition.find? definitions o.path = some definition) :
      Takes registered o (some definition)
  | undefined {schema : Text} (unmarked : o.field.ownSchema = none)
      (mark : o.above.findSome? Field.ownSchema = some schema)
      (missing : ∀ registry definitions, registered = some registry →
        registry.definitions? schema = some definitions →
        Definition.find? definitions o.path = none) :
      Takes registered o none
  | unmarked (unmarked : o.field.ownSchema = none)
      (unmarked_above : o.above.findSome? Field.ownSchema = none) :
      Takes registered o none

/-- A field takes what its place defines; if it is marked itself, there is something to take. -/
lemma takes_of_definition? {o : Occurrence}
    (there : o.field.ownSchema.isSome → (o.definition? registered).isSome) :
    Takes registered o (o.definition? registered) := by
  cases taken : o.definition? registered with
  | some definition =>
      obtain ⟨registry, schema, definitions, registry_eq, mark, known, found⟩ :=
        Occurrence.definition?_eq_some.mp taken
      cases own : o.field.ownSchema with
      | some ownSchema =>
          rw [Occurrence.schema?_of_own own] at mark
          exact .own (own.trans mark) registry_eq known found
      | none =>
          rw [Occurrence.schema?_of_not_own own] at mark
          exact .inherited own mark registry_eq known found
  | none =>
      have own : o.field.ownSchema = none := by
        cases own : o.field.ownSchema with
        | none => rfl
        | some schema => simp [taken, own] at there
      cases mark : o.above.findSome? Field.ownSchema with
      | none => exact .unmarked own mark
      | some schema =>
          refine .undefined own mark fun registry definitions registry_eq known => ?_
          cases found : Definition.find? definitions o.path with
          | none => rfl
          | some definition =>
              have defined := Occurrence.definition?_eq_some.mpr ⟨registry, schema, definitions,
                registry_eq, (Occurrence.schema?_of_not_own own).trans mark, known, found⟩
              rw [taken] at defined
              exact absurd defined (by simp)

/-- A field that takes no definition is not marked. -/
lemma Takes.unmarked_of_none {o : Occurrence} (taken : Takes registered o none) :
    o.field.ownSchema = none := by
  cases taken with
  | undefined unmarked _ _ => exact unmarked
  | unmarked unmarked _ => exact unmarked

/-! ## Injected trees -/

/-- The trees that come out of a list of trees standing below other fields.  Every field is kept
or dropped, in order.  It is completed by the definition it takes, and keeps as the fields below it
what comes out of its own; it is dropped if it is a group then and nothing is left below it. -/
inductive Injects (registered : Option Registry) :
    List Field → List Field → List Field → Prop
  | nil {above : List Field} : Injects registered above [] []
  | kept {above rest below others : List Field} {field : Field}
      {definition? : Option Definition} (taken : Takes registered ⟨field, above⟩ definition?)
      (injects_below : Injects registered (field :: above) (field.fields.getD []) below)
      (held : (field.completed definition?).isGroup → below ≠ [])
      (injects_rest : Injects registered above rest others) :
      Injects registered above (field :: rest)
        ({ field.completed definition? with fields := field.fields.map fun _ => below } :: others)
  | dropped {above rest others : List Field} {field : Field}
      {definition? : Option Definition} (taken : Takes registered ⟨field, above⟩ definition?)
      (injects_below : Injects registered (field :: above) (field.fields.getD []) [])
      (group : (field.completed definition?).isGroup)
      (injects_rest : Injects registered above rest others) :
      Injects registered above (field :: rest) others

/-- A field with new fields below it groups none exactly if it is a group and there are none. -/
lemma Field.isVacant_withBelow (field : Field) (below : List Field)
    (missing : field.fields = none → below = []) :
    (field.withBelow below).isVacant ↔ field.isGroup ∧ below = [] := by
  have group : (field.withBelow below).isGroup = field.isGroup := rfl
  rw [Field.isVacant, group, Bool.and_eq_true, Field.withBelow]
  cases fields : field.fields with
  | none => simp [missing fields]
  | some fields => simp

/-- A missing list of fields gives no injected fields. -/
lemma injectAt_missing {above below : List Field} {fields? : Option (List Field)} {changed : Bool}
    (injected : injectAt registered above (fields?.getD []) = .ok (below, changed))
    (missing : fields? = none) : below = [] := by
  subst missing
  simp only [Option.getD_none, injectAt_nil, Except.ok.injEq, Prod.mk.injEq] at injected
  exact injected.1.symm

/-- Everything that injection returns comes about by the rules of `Injects`. -/
lemma injects_of_injectAt (fields : List Field) :
    ∀ {above out : List Field} {changed : Bool},
      injectAt registered above fields = .ok (out, changed) →
        Injects registered above fields out := by
  induction fields using Field.forest_induction with
  | nil =>
      intro above out changed injected
      simp only [injectAt_nil, Except.ok.injEq, Prod.mk.injEq] at injected
      rw [← injected.1]
      exact .nil
  | cons field rest _ ih_below ih_rest =>
      intro above out changed injected
      obtain ⟨below, _, others, _, there, below_ok, others_ok, rfl, -⟩ :=
        injectAt_cons_ok.mp injected
      have taken : Takes registered ⟨field, above⟩ _ := takes_of_definition? there
      have vacant := Field.isVacant_withBelow ((⟨field, above⟩ : Occurrence).resolved registered)
        below
        (fun missing => injectAt_missing below_ok (by
          simpa only [Occurrence.resolved, Field.completed_fields] using missing))
      rw [Field.kept]
      split
      · next h =>
          obtain ⟨group, rfl⟩ := vacant.mp h
          exact .dropped taken (ih_below below_ok) group (ih_rest others_ok)
      · next h =>
          have held : ((⟨field, above⟩ : Occurrence).resolved registered).isGroup → below ≠ [] :=
            fun group empty => h (vacant.mpr ⟨group, empty⟩)
          have kept := Injects.kept taken (ih_below below_ok) held (ih_rest others_ok)
          simpa only [Field.withBelow, Occurrence.resolved, Field.completed_fields,
            List.singleton_append] using kept

/-- If all fields have names, so do all fields on the way from a place to the top. -/
lemma names_of_occurrences {fields above : List Field}
    (named_above : ∀ field ∈ above, field.name ≠ [])
    (named : ∀ o ∈ occurrences above fields, o.field.name ≠ []) :
    ∀ o ∈ occurrences above fields, ∀ field ∈ o.line, field.name ≠ [] := by
  intro o member field on_line
  rcases Occurrence.line_of_occurrences o member field on_line with h | ⟨place, h, rfl⟩
  · exact named_above field h
  · exact named place h

/-- **What an injected tree holds.**  If injection of named fields succeeds, the result comes from
them by the rules of `Injects`: in order, each kept field once, completed by the definition of its
own mark or of the closest mark above, and above what came out of its own children.  The path at
which a field is looked up is made of the names from the top down, joined by dots. -/
theorem inject_content {fields : List Field} {result : Injected}
    (named : ∀ o ∈ occurrences [] fields, o.field.name ≠ [])
    (injected : inject registered fields = .ok result) :
    Injects registered [] fields result.fields ∧
      ∀ o ∈ occurrences [] fields, o.path = List.intercalate "." (lineNames o.line) := by
  refine ⟨injects_of_injectAt fields (inject_ok.mp injected), fun o member => ?_⟩
  exact linePath_eq_intercalate o.line (names_of_occurrences (by simp) named o member)

/-! ## An example -/

/-- Two schemas that define fields of hosts. -/
def hostRegistry : Registry where
  schemas := [
    ("ecs", [
      { name := "host", type := "group", fields := [
        { name := "name", type := "keyword", description := "Name of the host.",
          multiFields := [{ name := "text", type := "match_only_text" }] },
        { name := "os", type := "group" }] },
      { name := "host.ip.v4", type := "ip" }]),
    ("cloud", [{ name := "host.region", type := "keyword" }])]

/-- Fields of hosts: one marked, with fields below it that its schema defines or not, and one among
them that is marked for another schema. -/
def hostFields : List Field := [
  { name := "host", external := some "ecs", fields := some [
    { name := "name", type := some "constant_keyword" },
    { name := "os" },
    { name := "ip", type := some "group", fields := some [{ name := "v4" }] },
    { name := "region", external := some "cloud" },
    { name := "empty", type := some "group", fields := some [] }] },
  { name := "tags", type := some "keyword", attributes := [(.text "level", .text "core")] }]

/-- The fields of hosts with what the schemas say of them. -/
def hostInjected : Injected where
  fields := [
    { name := "host", type := some "group", fields := some [
      { name := "name", type := some "constant_keyword",
        description := some "Name of the host.",
        multiFields := [{ name := "text", type := some "match_only_text" }] },
      { name := "ip", type := some "group", fields := some [
        { name := "v4", type := some "ip" }] },
      { name := "region", type := some "keyword" }] },
    { name := "tags", type := some "keyword", attributes := [(.text "level", .text "core")] }]
  changed := true

/-- The fields of hosts meet what `inject_content` asks for. -/
theorem inject_content_host :
    (∀ o ∈ occurrences [] hostFields, o.field.name ≠ []) ∧
      inject (some hostRegistry) hostFields = .ok hostInjected ∧
      Injects (some hostRegistry) [] hostFields hostInjected.fields :=
  ⟨by decide, rfl, (inject_content (by decide) rfl).1⟩

end ExternalFields
