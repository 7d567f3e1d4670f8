import ExternalFields.Proofs.Injection.Failure
import ExternalFields.Proofs.Injection.Survival

/-!
# When injection changes something

Injection reports a change exactly if it imported something, anywhere (`injectAt_changed`).  A field
can take a definition without a mark of its own, but then a field above it is marked; and no mark is
passed over if injection succeeds (`defined_of_injectAt`).  So trees with marks are those for which
a change is reported, also where the groups that hold the marks are left out.

Trees without marks are looked up nowhere (`definition?_of_unmarked`): all that happens to them is
that groups without fields are left out.

* **`inject_changed_iff`**: both together.
-/

namespace ExternalFields

variable {registered : Option Registry}

/-- Injection reports whether any place has a definition. -/
lemma injectAt_changed (fields : List Field) :
    ∀ {above out : List Field} {changed : Bool},
      injectAt registered above fields = .ok (out, changed) →
        changed = (occurrences above fields).any fun o => (o.definition? registered).isSome := by
  induction fields using Field.forest_induction with
  | nil =>
      intro above out changed injected
      simp only [injectAt_nil, Except.ok.injEq, Prod.mk.injEq] at injected
      exact injected.2.symm
  | cons field rest _ ih_below ih_rest =>
      intro above out changed injected
      obtain ⟨_, _, _, _, -, below_ok, others_ok, -, rfl⟩ := injectAt_cons_ok.mp injected
      rw [occurrences_cons, List.any_cons, List.any_append, ih_below below_ok, ih_rest others_ok,
        Bool.or_assoc]

/-- A field that is marked itself has a definition, if injection succeeds. -/
lemma defined_of_injectAt {above fields : List Field} {out : List Field × Bool}
    (injected : injectAt registered above fields = .ok out) {o : Occurrence}
    (member : o ∈ occurrences above fields) (marked : o.field.ownSchema.isSome) :
    (o.definition? registered).isSome := by
  have none_fails := failureOf?_eq_none.mpr ⟨out, injected⟩
  rw [failureOf?_injectAt, List.findSome?_eq_none_iff] at none_fails
  have here := none_fails o member
  rw [← failureOf?_definitionFor, failureOf?_eq_none] at here
  obtain ⟨definition?, taken⟩ := here
  obtain ⟨rfl, there⟩ := (definitionFor_ok o).mp taken
  exact there marked

/-- In a tree without marks no field has a definition. -/
lemma definition?_of_unmarked (registered : Option Registry) {fields : List Field}
    (unmarked : ∀ o ∈ occurrences [] fields, o.field.ownSchema = none) :
    ∀ o ∈ occurrences [] fields, o.definition? registered = none := by
  intro o member
  have no_schema : o.schema? = none := by
    refine List.findSome?_eq_none_iff.mpr fun field on_line => ?_
    rcases Occurrence.line_of_occurrences o member field on_line with h | ⟨place, h, rfl⟩
    · cases h
    · exact unmarked place h
  cases registered <;> simp [Occurrence.definition?, no_schema]

/-- **A change is reported exactly if a field is marked.** -/
lemma injectAt_changed_iff {fields out : List Field} {changed : Bool}
    (injected : injectAt registered [] fields = .ok (out, changed)) :
    changed = true ↔ ∃ o ∈ occurrences [] fields, o.field.ownSchema.isSome := by
  rw [injectAt_changed fields injected, List.any_eq_true]
  constructor
  · rintro ⟨o, member, defined⟩
    by_contra no_mark
    have unmarked : ∀ o ∈ occurrences [] fields, o.field.ownSchema = none := by
      simpa using no_mark
    rw [definition?_of_unmarked registered unmarked o member] at defined
    cases defined
  · rintro ⟨o, member, marked⟩
    exact ⟨o, member, defined_of_injectAt injected member marked⟩

/-! ## Trees without marks -/

/-- Whether everything at and below a place is a group, as it is written. -/
def Occurrence.onlyGroups (o : Occurrence) : Bool :=
  o.subtree.all fun inner => inner.field.isGroup

/-- Without definitions a field survives unless there are only groups at and below its place. -/
lemma Occurrence.survives_of_undefined {o : Occurrence}
    (undefined : ∀ inner ∈ o.subtree, inner.definition? registered = none) :
    o.survives registered = !o.onlyGroups := by
  rw [Bool.eq_iff_iff, Occurrence.survives_iff, Occurrence.onlyGroups, Bool.not_eq_true',
    List.all_eq_false]
  refine exists_congr fun inner => and_congr_right fun member => ?_
  rw [Occurrence.type?, undefined inner member, Field.isGroup, beq_iff_eq]

/-- **A tree without marks** can be injected whatever is registered: it loses what consists of
groups only, and that is no change. -/
lemma inject_unmarked {fields : List Field}
    (unmarked : ∀ o ∈ occurrences [] fields, o.field.ownSchema = none) :
    inject registered fields = .ok {
      fields := prune (fun o => !o.onlyGroups) Occurrence.field [] fields
      changed := false } := by
  have undefined := definition?_of_unmarked registered unmarked
  have none_fails : (occurrences [] fields).findSome? (Occurrence.failure? registered) = none :=
    List.findSome?_eq_none_iff.mpr fun o member => by
      rw [Occurrence.failure?, unmarked o member, Option.bind_none]
  rw [← failureOf?_injectAt, failureOf?_eq_none] at none_fails
  obtain ⟨⟨out, changed⟩, injected⟩ := none_fails
  have no_change : changed = false := by
    rw [injectAt_changed fields injected, List.any_eq_false]
    intro o member
    simp [undefined o member]
  have out_eq : out = prune (fun o => !o.onlyGroups) Occurrence.field [] fields := by
    rw [injectAt_eq_prune fields injected]
    refine prune_congr fields [] fun o member => ⟨?_, ?_⟩
    · exact Occurrence.survives_of_undefined fun inner h =>
        undefined inner (Occurrence.subtree_subset o member inner h)
    · rw [Occurrence.resolved, undefined o member]
      rfl
  rw [inject_eq, injected, no_change, out_eq]
  rfl

/-- **The report of a change is exact.**  If injection succeeds, it reports a change exactly if some
field is marked, at any depth and in groups that are left out too.  If it reports none, the result
does not depend on what is registered: it is the input without the fields whose whole subtree
consists of groups, and the input itself if there are none. -/
theorem inject_changed_iff {fields : List Field} {result : Injected}
    (injected : inject registered fields = .ok result) :
    (result.changed = true ↔ ∃ o ∈ occurrences [] fields, o.field.ownSchema.isSome) ∧
    (result.changed = false →
      (∀ other, inject other fields = .ok result) ∧
      result.fields = prune (fun o => !o.onlyGroups) Occurrence.field [] fields ∧
      ((∀ o ∈ occurrences [] fields, o.onlyGroups = false) → result.fields = fields)) := by
  have changed_iff : result.changed = true ↔
      ∃ o ∈ occurrences [] fields, o.field.ownSchema.isSome :=
    injectAt_changed_iff (inject_ok.mp injected)
  refine ⟨changed_iff, fun no_change => ?_⟩
  have unmarked : ∀ o ∈ occurrences [] fields, o.field.ownSchema = none := by
    rw [← Bool.not_eq_true, changed_iff] at no_change
    simpa using no_change
  rw [inject_unmarked unmarked, Except.ok.injEq] at injected
  subst injected
  refine ⟨fun other => inject_unmarked unmarked, rfl, fun no_groups => ?_⟩
  exact prune_eq_self fields [] fun o member => by simp [no_groups o member]

/-! ## An example -/

/-- A tree in which nothing but a group is marked. -/
def groupFields : List Field := [
  { name := "host", type := some "group", fields := some [
    { name := "os", external := some "ecs" }] },
  { name := "tags", type := some "keyword" }]

/-- The same tree without the mark. -/
def bareFields : List Field := [
  { name := "host", type := some "group", fields := some [
    { name := "os", type := some "group" }] },
  { name := "tags", type := some "keyword" }]

/-- Both trees lose the group, but only the mark makes that a change. -/
theorem inject_changed_iff_group :
    inject (some hostRegistry) groupFields
        = .ok { fields := [{ name := "tags", type := some "keyword" }], changed := true } ∧
      (∃ o ∈ occurrences [] groupFields, o.field.ownSchema.isSome) ∧
      ∀ other, inject other bareFields
        = .ok { fields := [{ name := "tags", type := some "keyword" }], changed := false } := by
  have marked := @inject_changed_iff (some hostRegistry) groupFields _ rfl
  have unmarked := @inject_changed_iff none bareFields _ rfl
  exact ⟨rfl, marked.1.mp rfl, (unmarked.2 rfl).1⟩

end ExternalFields
