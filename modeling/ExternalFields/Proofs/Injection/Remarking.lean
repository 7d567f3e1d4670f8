import ExternalFields.Proofs.Injection.Survival

/-!
# Marking an injected tree again

An injected field has become local: what its definition gave it now counts as its own, and its mark
is gone.  If the marks are put back, the same definitions are found at the same places, since names
and marks on the way to a survivor are what they were.  Completing a field by a definition that it
has taken before changes nothing but the mark (`Field.completed_again`), so the injected tree comes
out again.

* `Occurrence.remarked`: a field with what it took, under the mark that it had.
* `injectAt_remarked`: injection of the marked survivors, by induction over the input.
* **`inject_remarked`**: the same for whole trees.
-/

namespace ExternalFields

variable {registered : Option Registry}

/-! ## Completing a field twice -/

lemma Field.mergedType_again (imported : Text) (own : Option Text) :
    Field.mergedType imported (some (Field.mergedType imported own))
      = Field.mergedType imported own := by
  unfold Field.mergedType
  split <;> simp_all

lemma Field.preferred_again {α : Type} (own imported : List α) :
    Field.preferred (Field.preferred own imported) imported = Field.preferred own imported := by
  unfold Field.preferred
  split <;> simp_all

/-- **A definition that a field has taken adds nothing to it**, whatever its mark is and whatever
stands below it. -/
lemma Field.completed_again (field : Field) (definition? : Option Definition)
    (below? : Option (List Field)) :
    Field.completed { field.completed definition? with
        external := field.external, fields := below? } definition?
      = { field.completed definition? with fields := below? } := by
  cases definition? with
  | none => rfl
  | some definition =>
      simp only [Field.completed, Field.overlay, Field.mergedType_again, Field.preferred_again,
        Option.or_assoc, Option.or_self]

/-! ## Injecting again -/

/-- The completed field of a place, under the mark that the field had before. -/
def Occurrence.remarked (registered : Option Registry) (o : Occurrence) : Field :=
  { o.resolved registered with external := o.field.external }

/-- Fields of the same name and mark have the same definition, if the fields above them have the
same path and the same closest mark. -/
lemma Occurrence.definition?_congr {o o' : Occurrence}
    (name_eq : o'.field.name = o.field.name) (own_eq : o'.field.ownSchema = o.field.ownSchema)
    (path_eq : linePath o'.above = linePath o.above)
    (inherited_eq : o'.above.findSome? Field.ownSchema = o.above.findSome? Field.ownSchema) :
    o'.definition? registered = o.definition? registered := by
  have same_path : o'.path = o.path := by
    simp only [Occurrence.path, Occurrence.line, linePath_cons, name_eq, path_eq]
  have same_schema : o'.schema? = o.schema? := by
    simp only [Occurrence.schema?, Occurrence.line, ← ownSchema_or_inherited, own_eq, inherited_eq]
  rw [Occurrence.definition?_eq, Occurrence.definition?_eq, same_path, same_schema]

lemma getD_map_prune {keep : Occurrence → Bool} {change : Occurrence → Field} {above : List Field}
    (fields? : Option (List Field)) :
    (fields?.map (prune keep change above)).getD []
      = prune keep change above (fields?.getD []) := by
  cases fields? <;> rfl

/-- Injecting the survivors of some trees, completed and marked again, gives what injecting the
trees gave.  They may stand below other fields than before, if these have the same path and the
same closest mark. -/
lemma injectAt_remarked (fields : List Field) :
    ∀ {above newAbove out : List Field} {changed : Bool},
      linePath newAbove = linePath above →
      newAbove.findSome? Field.ownSchema = above.findSome? Field.ownSchema →
      injectAt registered above fields = .ok (out, changed) →
        ∃ changedAgain, injectAt registered newAbove (prune (Occurrence.survives registered)
          (Occurrence.remarked registered) above fields) = .ok (out, changedAgain) := by
  induction fields using Field.forest_induction with
  | nil =>
      intro above newAbove out changed _ _ injected
      simp only [injectAt_nil, Except.ok.injEq, Prod.mk.injEq] at injected
      exact ⟨false, by rw [prune_nil, injectAt_nil, injected.1]⟩
  | cons field rest _ ih_below ih_rest =>
      intro above newAbove out changed path_eq inherited_eq injected
      obtain ⟨below, _, others, _, there, below_ok, others_ok, rfl, -⟩ :=
        injectAt_cons_ok.mp injected
      obtain ⟨othersChanged, others_again⟩ := ih_rest path_eq inherited_eq others_ok
      rw [prune_cons]
      by_cases survives : (⟨field, above⟩ : Occurrence).survives registered
      · rw [if_pos survives, List.singleton_append]
        generalize marked_eq :
          { (⟨field, above⟩ : Occurrence).remarked registered with
            fields := field.fields.map (prune (Occurrence.survives registered)
              (Occurrence.remarked registered) (field :: above)) } = marked
        have name_eq : marked.name = field.name := by
          rw [← marked_eq]
          exact Field.completed_name field _
        have own_eq : marked.ownSchema = field.ownSchema := by
          rw [← marked_eq]
          rfl
        have same_definition : (⟨marked, newAbove⟩ : Occurrence).definition? registered
            = (⟨field, above⟩ : Occurrence).definition? registered :=
          Occurrence.definition?_congr name_eq own_eq path_eq inherited_eq
        have same_result : ((⟨marked, newAbove⟩ : Occurrence).resolved registered).withBelow below
            = ((⟨field, above⟩ : Occurrence).resolved registered).withBelow below := by
          rw [Occurrence.resolved, same_definition, ← marked_eq, Occurrence.remarked,
            Occurrence.resolved, Field.completed_again]
          simp only [Field.withBelow, Field.completed_fields, Option.map_map]
          rfl
        have path_below : linePath (marked :: newAbove) = linePath (field :: above) := by
          rw [linePath_cons, linePath_cons, path_eq, name_eq]
        have inherited_below : (marked :: newAbove).findSome? Field.ownSchema
            = (field :: above).findSome? Field.ownSchema := by
          rw [← ownSchema_or_inherited, ← ownSchema_or_inherited, own_eq, inherited_eq]
        obtain ⟨belowChanged, below_again⟩ := ih_below path_below inherited_below below_ok
        have below_marked : marked.fields.getD [] = prune (Occurrence.survives registered)
            (Occurrence.remarked registered) (field :: above) (field.fields.getD []) := by
          rw [← getD_map_prune, ← marked_eq]
        rw [← below_marked] at below_again
        refine ⟨_, injectAt_cons_ok.mpr ⟨below, belowChanged, others, othersChanged, ?_,
          below_again, others_again, ?_, rfl⟩⟩
        · rw [own_eq, same_definition]
          exact there
        · rw [same_result]
      · -- what is left out the first time is not there the second time
        have vacant := (isVacant_resolved registered (Occurrence.resolved registered)
          ⟨field, above⟩).mpr survives
        rw [← injectAt_eq_prune _ below_ok] at vacant
        rw [if_neg survives, List.nil_append, Field.kept, if_pos vacant, List.nil_append]
        exact ⟨_, others_again⟩

/-- **Marking an injected tree again gives it back.**  If injection succeeds, the result is the tree
of the survivors, each completed at its place.  The same tree in which every survivor has the mark
that it had before can be injected into the same schemas, and the fields that come out are those of
the first result. -/
theorem inject_remarked {fields : List Field} {result : Injected}
    (injected : inject registered fields = .ok result) :
    result.fields
        = prune (Occurrence.survives registered) (Occurrence.resolved registered) [] fields ∧
      ∃ changed, inject registered (prune (Occurrence.survives registered)
        (Occurrence.remarked registered) [] fields) = .ok { fields := result.fields, changed } := by
  rw [inject_ok] at injected
  obtain ⟨changedAgain, again⟩ := injectAt_remarked fields rfl rfl injected
  exact ⟨injectAt_eq_prune fields injected, changedAgain, inject_ok.mpr again⟩

/-! ## An example -/

/-- The injected fields of hosts, with their marks back. -/
def hostRemarked : List Field := [
  { name := "host", type := some "group", external := some "ecs", fields := some [
    { name := "name", type := some "constant_keyword",
      description := some "Name of the host.",
      multiFields := [{ name := "text", type := some "match_only_text" }] },
    { name := "ip", type := some "group", fields := some [
      { name := "v4", type := some "ip" }] },
    { name := "region", type := some "keyword", external := some "cloud" }] },
  { name := "tags", type := some "keyword", attributes := [(.text "level", .text "core")] }]

/-- They are injected into what they were. -/
theorem inject_remarked_host :
    inject (some hostRegistry) hostFields = .ok hostInjected ∧
      prune (Occurrence.survives (some hostRegistry)) (Occurrence.remarked (some hostRegistry)) []
        hostFields = hostRemarked ∧
      ∃ changed, inject (some hostRegistry) hostRemarked
        = .ok { fields := hostInjected.fields, changed } :=
  ⟨rfl, rfl, (@inject_remarked (some hostRegistry) hostFields hostInjected rfl).2⟩

end ExternalFields
