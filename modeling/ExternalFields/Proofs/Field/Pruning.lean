import ExternalFields.Proofs.Field.Occurrence

/-!
# Pruned trees

`prune keep change` drops the fields of a tree that fail a test, with everything below them, and
changes the attributes of the others one by one.  Test and change may look at the place of a field.

* `occurrences_prune`: if the test never drops a field above one that it keeps, and no name is
  changed, then the fields of the pruned trees are exactly those that pass the test, each once, in
  document order and under the same names.
-/

namespace ExternalFields

section

variable (keep : Occurrence → Bool) (change : Occurrence → Field)

mutual

/-- A field, changed and above its pruned children, if it passes the test. -/
def Field.prune (above : List Field) : Field → List Field
  | ⟨name, type, external, description, pattern, index, docValues, normalize, multiFields,
      attributes, fields⟩ =>
    let field : Field := ⟨name, type, external, description, pattern, index, docValues, normalize,
      multiFields, attributes, fields⟩
    if keep ⟨field, above⟩ then
      [{ change ⟨field, above⟩ with fields := pruneChildren (field :: above) fields }]
    else []

/-- The pruned fields below a field. -/
def pruneChildren (above : List Field) : Option (List Field) → Option (List Field)
  | none => none
  | some fields => some (prune above fields)

/-- The pruned fields of a list that stands below other fields. -/
def prune (above : List Field) : List Field → List Field
  | [] => []
  | field :: rest => field.prune above ++ prune above rest

end

@[simp] lemma prune_nil (above : List Field) : prune keep change above [] = [] := rfl

/-- Pruning a list of trees looks at its first field, and on what passes at the fields below. -/
lemma prune_cons (above : List Field) (field : Field) (rest : List Field) :
    prune keep change above (field :: rest)
      = (if keep ⟨field, above⟩ then
          [{ change ⟨field, above⟩ with
            fields := field.fields.map (prune keep change (field :: above)) }]
        else []) ++ prune keep change above rest := by
  obtain ⟨name, type, external, description, pattern, index, docValues, normalize, multiFields,
    attributes, fields⟩ := field
  cases fields <;> rfl

end

/-- What happens to the list of fields below a field is decided by that list, if there is one. -/
lemma map_eq_of_getD {fields? : Option (List Field)} {f g : List Field → List Field}
    (same : f (fields?.getD []) = g (fields?.getD [])) : fields?.map f = fields?.map g := by
  cases fields? with
  | none => rfl
  | some fields => exact congrArg some same

/-- Pruning depends on the test and the changes at the places of the trees alone. -/
lemma prune_congr {keep keep' : Occurrence → Bool} {change change' : Occurrence → Field}
    (fields : List Field) :
    ∀ above : List Field,
      (∀ o ∈ occurrences above fields, keep o = keep' o ∧ change o = change' o) →
      prune keep change above fields = prune keep' change' above fields := by
  induction fields using Field.forest_induction with
  | nil => intros; rfl
  | cons field rest _ ih_below ih_rest =>
      intro above same
      simp only [occurrences_cons, List.mem_cons, List.mem_append] at same
      obtain ⟨keep_eq, change_eq⟩ := same ⟨field, above⟩ (.inl rfl)
      have rest_eq := ih_rest above fun o h => same o (.inr (.inr h))
      have below_eq := map_eq_of_getD
        (ih_below (field :: above) fun o h => same o (.inr (.inl h)))
      rw [prune_cons, prune_cons, keep_eq, change_eq, rest_eq, below_eq]

/-- Trees whose fields all pass the test are left as they are, if nothing is changed. -/
lemma prune_eq_self {keep : Occurrence → Bool} (fields : List Field) :
    ∀ above : List Field, (∀ o ∈ occurrences above fields, keep o) →
      prune keep Occurrence.field above fields = fields := by
  induction fields using Field.forest_induction with
  | nil => intros; rfl
  | cons field rest _ ih_below ih_rest =>
      intro above passes
      simp only [occurrences_cons, List.mem_cons, List.mem_append] at passes
      have rest_eq := ih_rest above fun o h => passes o (.inr (.inr h))
      have below_eq := map_eq_of_getD (g := id)
        (ih_below (field :: above) fun o h => passes o (.inr (.inl h)))
      rw [prune_cons, if_pos (passes _ (.inl rfl)), rest_eq, below_eq, Option.map_id]
      cases field
      rfl

/-- A test that passes a field whenever it passes one below it. -/
def ClosedUpwards (keep : Occurrence → Bool) : Prop :=
  ∀ o : Occurrence, ∀ inner ∈ o.subtree, keep inner → keep o

/-- A field that fails such a test has nothing below it that passes. -/
lemma ClosedUpwards.filter_subtree {keep : Occurrence → Bool} (closed : ClosedUpwards keep)
    {o : Occurrence} (dropped : ¬ keep o) : o.subtree.filter keep = [] := by
  rw [List.filter_eq_nil_iff]
  exact fun inner member passes => dropped (closed o inner member passes)

/-- The names on the way to each of some places. -/
def placeNames (places : List Occurrence) : List (List Text) :=
  places.map fun o => lineNames o.line

lemma lineNames_cons (field : Field) (above : List Field) :
    lineNames (field :: above) = lineNames above ++ [field.name] := by
  simp [lineNames]

/-- **The fields of pruned trees** are those that pass the test, in the same order and under the
same names, each once. -/
lemma occurrences_prune {keep : Occurrence → Bool} {change : Occurrence → Field}
    (closed : ClosedUpwards keep) (same_name : ∀ o, (change o).name = o.field.name)
    (fields : List Field) :
    ∀ above newAbove : List Field, lineNames newAbove = lineNames above →
      placeNames (occurrences newAbove (prune keep change above fields))
        = placeNames ((occurrences above fields).filter keep) := by
  induction fields using Field.forest_induction with
  | nil => intro _ _ _; rfl
  | cons field rest _ ih_below ih_rest =>
      intro above newAbove same_line
      have rest_eq := ih_rest above newAbove same_line
      rw [prune_cons]
      by_cases passes : keep ⟨field, above⟩
      · have line_eq : ∀ fields, lineNames
            ({ change ⟨field, above⟩ with fields := fields } :: newAbove)
              = lineNames (field :: above) := by
          intro fields
          rw [lineNames_cons, lineNames_cons, same_line, same_name]
        have below_eq := ih_below (field :: above) _
          (line_eq (field.fields.map (prune keep change (field :: above))))
        have children : (field.fields.map (prune keep change (field :: above))).getD []
            = prune keep change (field :: above) (field.fields.getD []) := by
          cases field.fields <;> rfl
        simp only [passes, ↓reduceIte, List.cons_append, List.nil_append, occurrences_cons,
          List.filter_cons_of_pos, List.filter_append, placeNames, List.map_cons, List.map_append,
          children] at below_eq rest_eq ⊢
        rw [below_eq, rest_eq, Occurrence.line, Occurrence.line, line_eq]
      · have dropped := closed.filter_subtree passes
        rw [Occurrence.subtree] at dropped
        rw [if_neg passes, List.nil_append, rest_eq, occurrences, List.filter_append, dropped,
          List.nil_append]

end ExternalFields
