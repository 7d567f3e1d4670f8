import ExternalFields.Proofs.Field.Pruning
import ExternalFields.Proofs.Injection.Content

/-!
# Which fields survive injection

Injection drops a group when nothing is left below it, one level at a time.  Seen from outside, a
field is there in the result exactly if anything in its subtree has a type other than `group`, where
the type that counts is the one after completion (`Occurrence.survives`).

* `injectAt_eq_prune`: injection is pruning by that test.
* **`inject_survivors`**: the result in one equation, and its fields as those of the input.
-/

namespace ExternalFields

variable {registered : Option Registry}

/-- Whether anything at or below a place is of a type other than `group`. -/
def Occurrence.survives (registered : Option Registry) (o : Occurrence) : Bool :=
  o.subtree.any fun inner => inner.type? registered != some Field.groupType

/-- Completing a field gives it the type that counts at its place. -/
lemma Occurrence.resolved_type (o : Occurrence) :
    (o.resolved registered).type = o.type? registered := by
  rw [Occurrence.resolved, Occurrence.type?]
  cases o.definition? registered <;> rfl

/-- A completed field is a group if that is the type that counts. -/
lemma Occurrence.resolved_isGroup (o : Occurrence) :
    (o.resolved registered).isGroup ↔ o.type? registered = some Field.groupType := by
  rw [Field.isGroup, Occurrence.resolved_type, beq_iff_eq]

/-- A field survives if something at or below its place is no group. -/
lemma Occurrence.survives_iff {o : Occurrence} :
    o.survives registered ↔ ∃ inner ∈ o.subtree, inner.type? registered ≠ some Field.groupType := by
  simp [Occurrence.survives]

/-- Fields above a survivor survive. -/
lemma survives_closedUpwards : ClosedUpwards (Occurrence.survives registered) := by
  intro o inner inner_member survives
  obtain ⟨deep, deep_member, no_group⟩ := Occurrence.survives_iff.mp survives
  have in_subtree : deep ∈ occurrences o.above [o.field] := by
    refine Occurrence.subtree_subset inner ?_ deep deep_member
    simpa [Occurrence.subtree, occurrences] using inner_member
  exact Occurrence.survives_iff.mpr
    ⟨deep, by simpa [Occurrence.subtree, occurrences] using in_subtree, no_group⟩

/-- Nothing survives in trees that hold groups only. -/
lemma prune_survivors_eq_nil {change : Occurrence → Field} {above : List Field}
    (fields : List Field) :
    prune (Occurrence.survives registered) change above fields = [] ↔
      ∀ inner ∈ occurrences above fields, inner.type? registered = some Field.groupType := by
  induction fields with
  | nil => simp
  | cons field rest ih =>
      have head : (⟨field, above⟩ : Occurrence).survives registered = false ↔
          ∀ inner ∈ field.occurrences above, inner.type? registered = some Field.groupType := by
        simp [Occurrence.survives, Occurrence.subtree]
      rw [prune_cons, List.append_eq_nil_iff, ih, occurrences, List.forall_mem_append, ← head]
      cases (⟨field, above⟩ : Occurrence).survives registered <;> simp

/-- A completed field groups nothing exactly if it does not survive. -/
lemma isVacant_resolved (registered : Option Registry) (change : Occurrence → Field)
    (o : Occurrence) :
    ((o.resolved registered).withBelow (prune (Occurrence.survives registered) change
      (o.field :: o.above) (o.field.fields.getD []))).isVacant ↔ ¬ o.survives registered := by
  rw [Field.isVacant_withBelow, Occurrence.resolved_isGroup, prune_survivors_eq_nil,
    Occurrence.survives_iff, Occurrence.subtree_eq]
  · simp
  · intro missing
    rw [Occurrence.resolved, Field.completed_fields] at missing
    rw [missing]
    rfl

/-- **Injection is pruning**: the fields that survive are kept, each completed at its place. -/
lemma injectAt_eq_prune (fields : List Field) :
    ∀ {above out : List Field} {changed : Bool},
      injectAt registered above fields = .ok (out, changed) →
        out = prune (Occurrence.survives registered) (Occurrence.resolved registered) above
          fields := by
  induction fields using Field.forest_induction with
  | nil =>
      intro above out changed injected
      simp only [injectAt_nil, Except.ok.injEq, Prod.mk.injEq] at injected
      exact injected.1.symm
  | cons field rest _ ih_below ih_rest =>
      intro above out changed injected
      obtain ⟨below, _, others, _, -, below_ok, others_ok, rfl, -⟩ := injectAt_cons_ok.mp injected
      have below_eq := ih_below below_ok
      have vacant := isVacant_resolved registered (Occurrence.resolved registered) ⟨field, above⟩
      have fields_eq : ((⟨field, above⟩ : Occurrence).resolved registered).fields = field.fields :=
        Field.completed_fields _ _
      rw [prune_cons, ← ih_rest others_ok, Field.kept]
      congr 1
      rw [← below_eq] at vacant
      by_cases survives : (⟨field, above⟩ : Occurrence).survives registered
      · rw [if_neg (fun h => vacant.mp h survives), if_pos survives, Field.withBelow, fields_eq]
        have children : field.fields.map (fun _ => below) = field.fields.map
            (prune (Occurrence.survives registered) (Occurrence.resolved registered)
              (field :: above)) := by
          rw [below_eq]
          cases field.fields <;> rfl
        rw [children]
      · rw [if_pos (vacant.mpr survives), if_neg survives]

/-- **Which fields survive injection.**  A field is there in the result exactly if at least one
field of its subtree, itself included, has a resolved type other than `group`: the result is the
input pruned by that test, and its fields are those that pass it, in document order, each once and
under the names it had.  Hence all fields above a survivor survive, and so does every field that is
no group. -/
theorem inject_survivors {fields : List Field} {result : Injected}
    (injected : inject registered fields = .ok result) :
    result.fields
        = prune (Occurrence.survives registered) (Occurrence.resolved registered) [] fields ∧
      placeNames (occurrences [] result.fields)
        = placeNames ((occurrences [] fields).filter (Occurrence.survives registered)) ∧
      (∀ o : Occurrence, ∀ inner ∈ o.subtree,
        inner.survives registered → o.survives registered) ∧
      ∀ o : Occurrence, o.type? registered ≠ some Field.groupType → o.survives registered := by
  have out_eq := injectAt_eq_prune fields (inject_ok.mp injected)
  refine ⟨out_eq, ?_, survives_closedUpwards, fun o no_group => ?_⟩
  · rw [out_eq]
    exact occurrences_prune survives_closedUpwards
      (fun o => Field.completed_name o.field (o.definition? registered)) fields [] [] rfl
  · exact Occurrence.survives_iff.mpr ⟨o, by simp [Occurrence.subtree_eq], no_group⟩

/-- Of the example, `os` turns into an empty group and goes, and with it the empty group at the end;
`ip` stays for the address below it. -/
theorem inject_survivors_host :
    inject (some hostRegistry) hostFields = .ok hostInjected ∧
      placeNames (occurrences [] hostInjected.fields)
        = placeNames ((occurrences [] hostFields).filter
          (Occurrence.survives (some hostRegistry))) ∧
      (placeNames (occurrences [] hostInjected.fields)).length = 6 :=
  ⟨rfl, (@inject_survivors (some hostRegistry) hostFields hostInjected rfl).2.1, rfl⟩

end ExternalFields
