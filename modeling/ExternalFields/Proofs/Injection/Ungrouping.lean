import ExternalFields.Proofs.Field.Ungrouping
import ExternalFields.Proofs.FieldPath
import ExternalFields.Proofs.Injection.Explicit
import ExternalFields.Proofs.Injection.Idempotence

/-!
# Injection without groups

Groups above which nothing is marked only lend their names to the fields in them, and so do dots.
Injection treats both ways of writing alike: taking the groups away before it gives what taking
them away after it gives.

A field that is taken out of a group keeps its path, and with it all that injection knows of it
(`injectAt_within`).  What is left of the group itself is the list of fields below it; injection
leaves the group out exactly if that list comes to nothing, so that the fields taken out come to
nothing too.  The chosen groups are told apart by their positions, and some fields before them may
be left out; `origin` says where a field of the result stood before.

* `origin`, `Choice.surviving`: the positions of survivors, and those of a choice among them.
* `injectAt_ungroup`: the two ways of writing, by induction over the trees.
* **`inject_ungroup`**: the same for whole trees.
-/

namespace ExternalFields

variable {registered : Option Registry}

/-! ## Positions of survivors -/

/-- The trees of a list whose roots survive, with their numbers in the list. -/
def numberedSurvivors (registered : Option Registry) (above fields : List Field) :
    List (Field × Nat) :=
  fields.zipIdx.filter fun entry => Occurrence.survives registered ⟨entry.1, above⟩

/-- The position at which a field of an injected tree stood before: it is one of the survivors on
its level, and so is every field above it. -/
def origin (registered : Option Registry) (above fields : List Field) :
    Position → Option Position
  | [] => some []
  | i :: position =>
    (numberedSurvivors registered above fields)[i]?.bind fun (field, number) =>
      (origin registered (field :: above) (field.fields.getD []) position).map (number :: ·)

/-- The positions at which the chosen fields stand in the injected tree, if they survive. -/
def Choice.surviving (registered : Option Registry) (above fields : List Field)
    (chosen : Choice) : Choice :=
  fun position => (origin registered above fields position).any chosen

section

variable {above rest : List Field} {field : Field}

/-- The trees after the first one are numbered from one on. -/
lemma filter_zipIdx_one (keep : Field → Bool) (fields : List Field) :
    (fields.zipIdx 1).filter (fun entry => keep entry.1)
      = (fields.zipIdx.filter fun entry => keep entry.1).map
          fun entry => (entry.1, entry.2 + 1) := by
  rw [List.zipIdx_succ, List.filter_map]
  rfl

lemma numberedSurvivors_kept (survives : (⟨field, above⟩ : Occurrence).survives registered) :
    numberedSurvivors registered above (field :: rest)
      = (field, 0) :: (numberedSurvivors registered above rest).map
          fun entry => (entry.1, entry.2 + 1) := by
  rw [numberedSurvivors, List.zipIdx_cons, List.filter_cons, if_pos survives,
    filter_zipIdx_one (fun field => Occurrence.survives registered ⟨field, above⟩)]
  rfl

lemma numberedSurvivors_dropped
    (dropped : ¬ (⟨field, above⟩ : Occurrence).survives registered) :
    numberedSurvivors registered above (field :: rest)
      = (numberedSurvivors registered above rest).map fun entry => (entry.1, entry.2 + 1) := by
  rw [numberedSurvivors, List.zipIdx_cons, List.filter_cons, if_neg dropped,
    filter_zipIdx_one (fun field => Occurrence.survives registered ⟨field, above⟩)]
  rfl

/-- Below the root of a first tree that survives, positions come from below that root. -/
lemma origin_first (survives : (⟨field, above⟩ : Occurrence).survives registered)
    (position : Position) :
    origin registered above (field :: rest) (0 :: position)
      = (origin registered (field :: above) (field.fields.getD []) position).map (0 :: ·) := by
  rw [origin, numberedSurvivors_kept survives]
  rfl

/-- After a first tree that survives, positions come from the other trees. -/
lemma origin_others (survives : (⟨field, above⟩ : Occurrence).survives registered) (i : Nat)
    (position : Position) :
    origin registered above (field :: rest) ((i + 1) :: position)
      = (origin registered above rest (i :: position)).map (·.modifyHead (· + 1)) := by
  rw [origin, numberedSurvivors_kept survives, origin]
  simp only [List.getElem?_cons_succ, List.getElem?_map, Option.bind_map, Option.map_bind,
    Function.comp_def, Option.map_map, List.modifyHead_cons]

/-- If the first tree is left out, all positions come from the other trees. -/
lemma origin_dropped (dropped : ¬ (⟨field, above⟩ : Occurrence).survives registered) (i : Nat)
    (position : Position) :
    origin registered above (field :: rest) (i :: position)
      = (origin registered above rest (i :: position)).map (·.modifyHead (· + 1)) := by
  rw [origin, numberedSurvivors_dropped dropped, origin]
  simp only [List.getElem?_map, Option.bind_map, Option.map_bind, Function.comp_def,
    Option.map_map, List.modifyHead_cons]

namespace Choice

variable {chosen : Choice}

lemma any_others (p : Option Position) :
    (p.map (·.modifyHead (· + 1))).any chosen = p.any chosen.others := by
  rcases p with _ | _ | ⟨i, position⟩ <;> rfl

lemma surviving_nil (fields : List Field) :
    chosen.surviving registered above fields [] = chosen [] := rfl

lemma surviving_first (survives : (⟨field, above⟩ : Occurrence).survives registered) :
    (chosen.surviving registered above (field :: rest)).first
      = chosen.first.surviving registered (field :: above) (field.fields.getD []) := by
  funext position
  rw [first, surviving, origin_first survives, Option.any_map]
  rfl

lemma surviving_others (survives : (⟨field, above⟩ : Occurrence).survives registered) :
    (chosen.surviving registered above (field :: rest)).others
      = chosen.others.surviving registered above rest := by
  funext position
  cases position with
  | nil => rfl
  | cons i position => rw [others, surviving, origin_others survives, any_others]; rfl

lemma surviving_dropped (dropped : ¬ (⟨field, above⟩ : Occurrence).survives registered) :
    chosen.surviving registered above (field :: rest)
      = chosen.others.surviving registered above rest := by
  funext position
  cases position with
  | nil => rfl
  | cons i position => rw [surviving, origin_dropped dropped, any_others]; rfl

end Choice

end

/-! ## Fields taken out of a group -/

/-- Of the fields above, injection looks at the path and the closest mark. -/
lemma injectAt_above {above newAbove : List Field} (path_eq : linePath newAbove = linePath above)
    (closest_eq : newAbove.findSome? Field.ownSchema = above.findSome? Field.ownSchema)
    (fields : List Field) :
    injectAt registered newAbove fields = injectAt registered above fields := by
  rw [injectAt, injectAt, path_eq, closest_eq]

/-- The closest mark below a field depends on its own mark and on the closest one above it. -/
lemma closest_below_congr {field newField : Field} {above newAbove : List Field}
    (own_eq : newField.ownSchema = field.ownSchema)
    (closest_eq : newAbove.findSome? Field.ownSchema = above.findSome? Field.ownSchema) :
    (newField :: newAbove).findSome? Field.ownSchema
      = (field :: above).findSome? Field.ownSchema := by
  rw [← ownSchema_or_inherited, ← ownSchema_or_inherited, closest_eq, own_eq]

/-- Lists of trees are injected one after the other. -/
lemma injectAt_append (above front back : List Field) :
    injectAt registered above (front ++ back) = do
      let first ← injectAt registered above front
      let others ← injectAt registered above back
      return (first.1 ++ others.1, first.2 || others.2) := by
  induction front with
  | nil =>
      rw [List.nil_append, injectAt_nil, ok_bind]
      cases injectAt registered above back <;> rfl
  | cons field rest ih =>
      simp only [List.cons_append, injectAt_cons, ih, bind_assoc, pure_bind, List.append_assoc,
        Bool.or_assoc]

/-- A field that is taken out of a group takes its name along into the result. -/
lemma Field.kept_within (group : Text) (field : Field) (definition? : Option Definition)
    (below : List Field) :
    (((field.within group).completed definition?).withBelow below).kept
      = ((field.completed definition?).withBelow below).kept.map (Field.within group) := by
  have vacant_eq : (((field.within group).completed definition?).withBelow below).isVacant
      = ((field.completed definition?).withBelow below).isVacant := by
    cases definition? <;> rfl
  rw [Field.kept, Field.kept, vacant_eq]
  split
  · rfl
  · cases definition? <;> rfl

/-- **Fields taken out of an unmarked group** are injected like those in it. -/
lemma injectAt_within {above newAbove : List Field} {group : Text} (named : group ≠ [])
    (path_eq : linePath above = FieldPath.join (linePath newAbove) group)
    (closest_eq : newAbove.findSome? Field.ownSchema = above.findSome? Field.ownSchema)
    (fields : List Field) :
    injectAt registered newAbove (fields.map (Field.within group))
      = (fun out => (out.1.map (Field.within group), out.2))
          <$> injectAt registered above fields := by
  induction fields with
  | nil => rfl
  | cons field rest ih =>
      have line_eq : linePath (field.within group :: newAbove) = linePath (field :: above) := by
        rw [linePath_cons, linePath_cons, path_eq, FieldPath.join_join _ named]
        rfl
      have closest_below : (field.within group :: newAbove).findSome? Field.ownSchema
          = (field :: above).findSome? Field.ownSchema := closest_below_congr rfl closest_eq
      have lookup_eq : definitionFor registered (newAbove.findSome? Field.ownSchema)
            (Occurrence.path ⟨field.within group, newAbove⟩) (field.within group)
          = definitionFor registered (above.findSome? Field.ownSchema)
              (Occurrence.path ⟨field, above⟩) field := by
        rw [closest_eq, Occurrence.path, Occurrence.line, line_eq]
        rfl
      have below_eq : injectAt registered (field.within group :: newAbove)
            ((field.within group).fields.getD [])
          = injectAt registered (field :: above) (field.fields.getD []) :=
        injectAt_above line_eq closest_below _
      rw [List.map_cons, injectAt_cons, injectAt_cons, lookup_eq, below_eq, ih]
      simp only [map_bind, bind_map_left, map_pure, Field.kept_within, List.map_append]

/-! ## Taking the groups away afterwards -/

section

variable {above rest below : List Field} {field : Field} {belowChanged : Bool} {chosen : Choice}

/-- A completed field above a list groups nothing exactly if it is a group and the list is empty.
The list is the one that came out below it, or is made of it. -/
lemma isVacant_resolved_below {made : List Field}
    (below_ok : injectAt registered (field :: above) (field.fields.getD [])
      = .ok (below, belowChanged)) (nothing : below = [] → made = []) :
    (((⟨field, above⟩ : Occurrence).resolved registered).withBelow made).isVacant ↔
      ((⟨field, above⟩ : Occurrence).resolved registered).isGroup ∧ made = [] := by
  refine Field.isVacant_withBelow _ _ fun missing => nothing (injectAt_missing below_ok ?_)
  simpa only [Occurrence.resolved, Field.completed_fields] using missing

/-- A field is left out exactly if it is a group and nothing came out below it. -/
lemma dropped_iff
    (below_ok : injectAt registered (field :: above) (field.fields.getD [])
      = .ok (below, belowChanged)) :
    ¬ (⟨field, above⟩ : Occurrence).survives registered ↔
      ((⟨field, above⟩ : Occurrence).resolved registered).isGroup ∧ below = [] := by
  have vacant := isVacant_resolved registered (Occurrence.resolved registered) ⟨field, above⟩
  rw [← injectAt_eq_prune _ below_ok] at vacant
  rw [← vacant, isVacant_resolved_below below_ok id]

/-- A completed field is kept above a list if the field survives, where the list is the one that
came out below it, or is made of it and empty only if that is. -/
lemma kept_resolved {made : List Field}
    (below_ok : injectAt registered (field :: above) (field.fields.getD [])
      = .ok (below, belowChanged)) (same : below = [] ↔ made = []) :
    (((⟨field, above⟩ : Occurrence).resolved registered).withBelow made).kept
      = if (⟨field, above⟩ : Occurrence).survives registered then
          [((⟨field, above⟩ : Occurrence).resolved registered).withBelow made]
        else [] := by
  have vacant := isVacant_resolved_below below_ok same.mp
  rw [← same, ← dropped_iff below_ok] at vacant
  rw [Field.kept]
  by_cases survives : (⟨field, above⟩ : Occurrence).survives registered
  · rw [if_neg fun h => vacant.mp h survives, if_pos survives]
  · rw [if_pos (vacant.mpr survives), if_neg survives]

/-- An unmarked field below unmarked fields takes no definition. -/
lemma resolved_of_unmarked (unmarked : ∀ other ∈ field :: above, other.ownSchema = none) :
    (⟨field, above⟩ : Occurrence).resolved registered = field := by
  have no_schema : (⟨field, above⟩ : Occurrence).schema? = none :=
    List.findSome?_eq_none_iff.mpr unmarked
  rw [Occurrence.resolved, Occurrence.definition?_eq, no_schema]
  rfl

/-- **One step of ungrouping a result**: if the first field is chosen it is replaced by what is left
below it, and otherwise kept above that, if it survives. -/
lemma ungroup_result
    (below_ok : injectAt registered (field :: above) (field.fields.getD [])
      = .ok (below, belowChanged))
    (same : below = [] ↔
      ungroup (chosen.first.surviving registered (field :: above) (field.fields.getD [])) below
        = [])
    (others : List Field) :
    ungroup (chosen.surviving registered above (field :: rest))
        ((((⟨field, above⟩ : Occurrence).resolved registered).withBelow below).kept ++ others)
      = (if chosen.first [] then
          (ungroup (chosen.first.surviving registered (field :: above) (field.fields.getD []))
            below).map (Field.within field.name)
        else (((⟨field, above⟩ : Occurrence).resolved registered).withBelow
          (ungroup (chosen.first.surviving registered (field :: above) (field.fields.getD []))
            below)).kept)
        ++ ungroup (chosen.others.surviving registered above rest) others := by
  have fields_eq : ((⟨field, above⟩ : Occurrence).resolved registered).fields = field.fields :=
    Field.completed_fields _ _
  have name_eq : ((⟨field, above⟩ : Occurrence).resolved registered).name = field.name :=
    Field.completed_name _ _
  have below_eq : (field.fields.map fun _ => below).getD [] = below :=
    (injects_of_injectAt _ below_ok).below_eq
  rw [kept_resolved below_ok Iff.rfl, kept_resolved below_ok same]
  by_cases survives : (⟨field, above⟩ : Occurrence).survives registered
  · rw [if_pos survives, if_pos survives, List.singleton_append, ungroup_cons,
      Choice.surviving_first survives, Choice.surviving_others survives]
    simp only [Choice.surviving_nil, Field.withBelow, fields_eq, name_eq, below_eq,
      Option.map_map, Function.comp_def]
  · obtain ⟨-, empty⟩ := (dropped_iff below_ok).mp survives
    rw [if_neg survives, if_neg survives, List.nil_append, Choice.surviving_dropped survives,
      same.mp empty]
    simp

end

/-- What comes out of injection is not empty if it is ungrouped: groups without fields are gone. -/
lemma ungroup_eq_nil (fields : List Field) :
    ∀ {above out : List Field} {changed : Bool} {chosen : Choice},
      chosen.IsOfGroups above fields → injectAt registered above fields = .ok (out, changed) →
      (out = [] ↔ ungroup (chosen.surviving registered above fields) out = []) := by
  induction fields using Field.forest_induction with
  | nil =>
      intro above out changed chosen _ injected
      simp only [injectAt_nil, Except.ok.injEq, Prod.mk.injEq] at injected
      simp [← injected.1]
  | cons field rest _ ih_below ih_rest =>
      intro above out changed chosen groups injected
      obtain ⟨below, _, others, _, -, below_ok, others_ok, rfl, -⟩ := injectAt_cons_ok.mp injected
      have same := ih_below groups.first below_ok
      have same_rest := ih_rest groups.others others_ok
      rw [ungroup_result below_ok same, List.append_eq_nil_iff, List.append_eq_nil_iff,
        ← same_rest]
      refine and_congr_left fun _ => ?_
      rw [kept_resolved below_ok Iff.rfl, kept_resolved below_ok same]
      by_cases here : chosen.first []
      · -- the root is a group that takes no definition, so it goes exactly if nothing is below it
        obtain ⟨group, unmarked⟩ := groups.root here
        have dropped := dropped_iff below_ok
        rw [resolved_of_unmarked unmarked] at dropped
        rw [if_pos here, List.map_eq_nil_iff, ← same]
        by_cases survives : (⟨field, above⟩ : Occurrence).survives registered
        · have present : below ≠ [] := fun empty => dropped.mpr ⟨group, empty⟩ survives
          simp [survives, present]
        · simp [survives, (dropped.mp survives).2]
      · rw [if_neg here]
        split <;> simp

/-- One step of injection, with the chosen groups taken away afterwards. -/
lemma ungroup_injectAt_cons {above rest : List Field} {field : Field} {chosen : Choice}
    (groups : chosen.IsOfGroups above (field :: rest)) :
    (fun out => (ungroup (chosen.surviving registered above (field :: rest)) out.1, out.2))
        <$> injectAt registered above (field :: rest)
      = do
        let definition? ← definitionFor registered (above.findSome? Field.ownSchema)
          (Occurrence.path ⟨field, above⟩) field
        let below ← (fun out => (ungroup (chosen.first.surviving registered (field :: above)
          (field.fields.getD [])) out.1, out.2))
            <$> injectAt registered (field :: above) (field.fields.getD [])
        let others ← (fun out => (ungroup (chosen.others.surviving registered above rest) out.1,
          out.2)) <$> injectAt registered above rest
        return ((if chosen.first [] then below.1.map (Field.within field.name)
          else ((field.completed definition?).withBelow below.1).kept) ++ others.1,
          (definition?.isSome || below.2) || others.2) := by
  rw [injectAt_cons]
  cases taken : definitionFor registered (above.findSome? Field.ownSchema)
      (Occurrence.path ⟨field, above⟩) field with
  | error e => rfl
  | ok definition? =>
      obtain ⟨rfl, -⟩ := (definitionFor_ok ⟨field, above⟩).mp taken
      cases below_ok : injectAt registered (field :: above) (field.fields.getD []) with
      | error e => rfl
      | ok below =>
          have step := @ungroup_result registered above rest _ _ _ chosen below_ok
            (ungroup_eq_nil _ groups.first below_ok)
          cases injectAt registered above rest with
          | error e => rfl
          | ok others => exact congrArg (fun fields => Except.ok (fields, _)) (step others.1)

/-! ## Both ways of writing -/

/-- Injecting trees without the chosen groups gives what injecting the trees gives, without those of
the chosen groups that survive, failures included.  The trees may stand below other fields than
before, if these have the same path and the same closest mark. -/
lemma injectAt_ungroup (fields : List Field) :
    ∀ {above newAbove : List Field} {chosen : Choice}, linePath newAbove = linePath above →
      newAbove.findSome? Field.ownSchema = above.findSome? Field.ownSchema →
      (∀ o ∈ occurrences above fields, o.field.name ≠ []) → chosen.IsOfGroups above fields →
      injectAt registered newAbove (ungroup chosen fields)
        = (fun out => (ungroup (chosen.surviving registered above fields) out.1, out.2))
            <$> injectAt registered above fields := by
  induction fields using Field.forest_induction with
  | nil => intros; rfl
  | cons field rest _ ih_below ih_rest =>
      intro above newAbove chosen path_eq closest_eq named groups
      simp only [occurrences_cons, List.mem_cons, List.mem_append] at named
      have named_here : field.name ≠ [] := named ⟨field, above⟩ (.inl rfl)
      have named_below := fun o h => named o (.inr (.inl h))
      have rest_eq := ih_rest path_eq closest_eq (fun o h => named o (.inr (.inr h)))
        groups.others
      rw [ungroup_cons, ungroup_injectAt_cons groups]
      by_cases here : chosen.first []
      · -- the root is gone: its fields are injected in its place
        obtain ⟨-, unmarked⟩ := groups.root here
        have closest_below : newAbove.findSome? Field.ownSchema
            = (field :: above).findSome? Field.ownSchema := by
          rw [closest_eq, ← ownSchema_or_inherited, unmarked field List.mem_cons_self]
          rfl
        have path_below : linePath (field :: above)
            = FieldPath.join (linePath newAbove) field.name := by
          rw [linePath_cons, path_eq]
        have unmarked_above : above.findSome? Field.ownSchema = none :=
          List.findSome?_eq_none_iff.mpr fun other h =>
            unmarked other (List.mem_cons_of_mem field h)
        have below_eq := @ih_below (field :: above) (field :: above) chosen.first rfl rfl
          named_below groups.first
        rw [if_pos here, injectAt_append, injectAt_within named_here path_below closest_below,
          below_eq, rest_eq, definitionFor_of_not_own (unmarked field List.mem_cons_self),
          unmarked_above]
        simp only [here, if_true, Option.bind_none, ok_bind, bind_map_left, Option.isSome_none,
          Bool.false_or]
      · -- the root stays, above the fields below it without the chosen ones
        rw [if_neg here, List.singleton_append]
        generalize kept_eq : { field with
          fields := field.fields.map (ungroup chosen.first) } = kept
        have path_below : linePath (kept :: newAbove) = linePath (field :: above) := by
          rw [linePath_cons, linePath_cons, path_eq, ← kept_eq]
        have closest_below : (kept :: newAbove).findSome? Field.ownSchema
            = (field :: above).findSome? Field.ownSchema :=
          closest_below_congr (by rw [← kept_eq]; rfl) closest_eq
        have below_kept : kept.fields.getD [] = ungroup chosen.first (field.fields.getD []) := by
          rw [← kept_eq, ← getD_map_ungroup]
        have lookup_eq : definitionFor registered (newAbove.findSome? Field.ownSchema)
              (Occurrence.path ⟨kept, newAbove⟩) kept
            = definitionFor registered (above.findSome? Field.ownSchema)
                (Occurrence.path ⟨field, above⟩) field := by
          rw [closest_eq, Occurrence.path, Occurrence.line, path_below, ← kept_eq,
            definitionFor_below]
          rfl
        have completed_eq : ∀ definition? below, (kept.completed definition?).withBelow below
            = (field.completed definition?).withBelow below := by
          intro definition? below
          rw [← kept_eq, Field.completed_below]
          simp only [Field.withBelow, Field.completed_fields, Option.map_map]
          rfl
        rw [injectAt_cons, lookup_eq, below_kept,
          ih_below path_below closest_below named_below groups.first, rest_eq]
        simp only [here, Bool.false_eq_true, if_false, completed_eq]

/-- **Groups and dotted names are two ways to write the same tree.**  In a tree of fields with names
let groups be chosen that are not marked, nor is any field above them, and let each be replaced by
the fields below it, under names that start with the name of the group and a dot.  Injecting the new
tree gives what injecting the old one gives, once the chosen groups that survive are replaced in the
same way, with the same report of a change; and it fails if the other does, with the same error. -/
theorem inject_ungroup (registered : Option Registry) {fields : List Field} {chosen : Choice}
    (named : ∀ o ∈ occurrences [] fields, o.field.name ≠ [])
    (groups : chosen.IsOfGroups [] fields) :
    inject registered (ungroup chosen fields)
      = (fun result => { result with
          fields := ungroup (chosen.surviving registered [] fields) result.fields })
            <$> inject registered fields := by
  rw [inject_eq, inject_eq, injectAt_ungroup fields rfl rfl named groups]
  simp only [Functor.map_map]

/-! ## An example -/

/-- Fields of hosts in groups, some of them in groups of their own. -/
def groupedFields : List Field := [
  { name := "host", type := some "group", fields := some [
    { name := "empty", type := some "group", fields := some [] },
    { name := "name", external := some "ecs" },
    { name := "ip", type := some "group", fields := some [
      { name := "v4", external := some "ecs" }, { name := "v6", type := some "ip" }] }] },
  { name := "host", type := some "group", fields := some [
    { name := "uptime", type := some "long" }] }]

/-- The first group of hosts and the groups in it. -/
def groupedChoice : Choice := fun position => [[0], [0, 0], [0, 2]].contains position

/-- The same fields with dotted names, but for those in the second group. -/
def dottedFields : List Field := [
  { name := "host.name", external := some "ecs" },
  { name := "host.ip.v4", external := some "ecs" },
  { name := "host.ip.v6", type := some "ip" },
  { name := "host", type := some "group", fields := some [
    { name := "uptime", type := some "long" }] }]

/-- The fields in groups with what the schemas say of them. -/
def groupedInjected : Injected where
  fields := [
    { name := "host", type := some "group", fields := some [
      { name := "name", type := some "keyword", description := some "Name of the host.",
        multiFields := [{ name := "text", type := some "match_only_text" }] },
      { name := "ip", type := some "group", fields := some [
        { name := "v4", type := some "ip" }, { name := "v6", type := some "ip" }] }] },
    { name := "host", type := some "group", fields := some [
      { name := "uptime", type := some "long" }] }]
  changed := true

/-- The chosen groups are groups and no marks are about; without them the same is imported. -/
theorem inject_ungroup_host :
    (∀ o ∈ occurrences [] groupedFields, o.field.name ≠ []) ∧
      groupedChoice.IsOfGroups [] groupedFields ∧
      ungroup groupedChoice groupedFields = dottedFields ∧
      inject (some hostRegistry) groupedFields = .ok groupedInjected ∧
      inject (some hostRegistry) dottedFields = .ok {
        fields := ungroup (fun position => [[0], [0, 1]].contains position) groupedInjected.fields
        changed := true } := by
  have named : ∀ o ∈ occurrences [] groupedFields, o.field.name ≠ [] := by decide
  have groups : groupedChoice.IsOfGroups [] groupedFields := by
    intro position o chosen found
    simp only [groupedChoice, List.contains_eq_mem, List.mem_cons, List.not_mem_nil, or_false,
      decide_eq_true_eq] at chosen
    rcases chosen with rfl | rfl | rfl <;> (cases found; decide)
  have same := inject_ungroup (some hostRegistry) named groups
  exact ⟨named, groups, rfl, rfl, same.trans rfl⟩

end ExternalFields
