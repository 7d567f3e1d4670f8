import ExternalFields.Proofs.Files.Errors
import ExternalFields.World

/-!
# Running operations

What running an operation on the world gives: its result, and the world it leaves.  An operation in
steps stops at the first step that fails, and what was done before stays done (`run_bind`); the
other lemmas are about the single steps.  `FailsOnly` bounds what an operation can fail with.
-/

namespace ExternalFields.Action

variable {σ α β ε : Type} {world : World σ}

/-- What follows a step is run in the world that the step leaves, unless the step fails. -/
lemma run_bind (step : Action σ α) (rest : α → Action σ β) :
    (step >>= rest).run.run world = match step.run.run world with
      | (.error failure, after) => (.error failure, after)
      | (.ok a, after) => (rest a).run.run after := by
  rw [ExceptT.run_bind, StateT.run_bind]
  cases step.run.run world with
  | mk result after => cases result <;> rfl

lemma run_files : (files : Action σ FileSystem).run.run world = (.ok world.files, world) := rfl

lemma run_ofExcept (wrap : ε → Failure) (result : Except ε α) :
    (ofExcept wrap result : Action σ α).run.run world = (result.mapError wrap, world) := by
  cases result <;> rfl

lemma run_map (step : Action σ α) (f : α → β) :
    (f <$> step).run.run world = (f <$> (step.run.run world).1, (step.run.run world).2) := by
  rw [map_eq_pure_bind, run_bind]
  split
  · next run => rw [run]; rfl
  · next run => rw [run]; rfl

lemma run_makeDirectories (path : Path) :
    (makeDirectories path : Action σ Unit).run.run world
      = ((world.files.makeDirectories path).1.mapError .file,
        world.withFiles (world.files.makeDirectories path).2) := by
  rw [makeDirectories, run_bind, run_files]
  exact run_ofExcept .file _

lemma run_write (path : Path) (content : Octets) :
    (write path content : Action σ Unit).run.run world
      = match world.files.write path content with
        | .error e => (.error (.file e), world)
        | .ok files => (.ok (), world.withFiles files) := by
  rw [write, run_bind, run_files]
  dsimp only
  rw [run_bind, run_ofExcept]
  cases world.files.write path content <;> rfl

/-! ## Sorts of failures -/

/-- An operation all of whose failures are of a sort, whatever the world. -/
def FailsOnly (sort : Failure → Prop) (action : Action σ α) : Prop :=
  ∀ world, ExternalFields.FailsOnly sort (action.run.run world).1

namespace FailsOnly

variable {sort : Failure → Prop}

/-- In one world: the first step may fail in a way that depends on that world. -/
lemma bind_in {step : Action σ α} {rest : α → Action σ β}
    (first : ExternalFields.FailsOnly sort (step.run.run world).1)
    (others : ∀ a, FailsOnly sort (rest a)) :
    ExternalFields.FailsOnly sort ((step >>= rest).run.run world).1 := by
  rw [run_bind]
  rcases run : step.run.run world with ⟨failure | a, after⟩
  · rw [run] at first
    exact .error (first failure rfl)
  · exact others a after

/-- The failures of an operation in steps are those of the steps. -/
lemma bind {step : Action σ α} {rest : α → Action σ β} (first : FailsOnly sort step)
    (others : ∀ a, FailsOnly sort (rest a)) : FailsOnly sort (step >>= rest) :=
  fun world => bind_in (first world) others

lemma pure (a : α) : FailsOnly sort (Pure.pure a : Action σ α) := fun _ => .ok a

lemma throw {failure : Failure} (of_sort : sort failure) :
    FailsOnly sort (MonadExcept.throw failure : Action σ α) := fun _ => .error of_sort

lemma files : FailsOnly sort (Action.files : Action σ FileSystem) := fun world => .ok world.files

lemma map {step : Action σ α} (first : FailsOnly sort step) (f : α → β) :
    FailsOnly sort (f <$> step) := by
  intro world
  rw [run_map]
  exact (first world).map f

lemma ofExcept {wrap : ε → Failure} {result : Except ε α}
    (failures : ∀ e, result = .error e → sort (wrap e)) :
    FailsOnly sort (Action.ofExcept wrap result : Action σ α) := by
  intro world
  rw [run_ofExcept]
  exact .mapError failures

lemma makeDirectories (path : Path) (of_files : ∀ e : FileError, e.IsFounded → sort (.file e)) :
    FailsOnly sort (Action.makeDirectories path : Action σ Unit) := by
  intro world
  rw [run_makeDirectories]
  exact .mapError fun e failed => of_files e (FileSystem.makeDirectories_founded e failed)

lemma write (path : Path) (content : Octets)
    (of_files : ∀ e : FileError, e.IsFounded → sort (.file e)) :
    FailsOnly sort (Action.write path content : Action σ Unit) := by
  intro world
  rw [run_write]
  cases written : world.files.write path content with
  | error e => exact .error (of_files e (FileSystem.write_founded content e written))
  | ok files => exact .ok ()

end FailsOnly

end ExternalFields.Action
