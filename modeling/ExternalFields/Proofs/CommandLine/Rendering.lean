import ExternalFields.CommandLine.Running
import ExternalFields.Proofs.Actions

/-!
# The command for one file, step by step

The command finds out the schemas, renders the injected document and delivers it, to the output or
to a file.  Whatever becomes of the document, it is rendered in the same way.

* `registryOf_some`: finding out the schemas of a manifest.
* `rendering`, `deliver`: the steps, and **`injectCommand_steps`**: the command made up of them.
* **`rendering_run`**, **`deliver_run`**: what the steps do.
-/

namespace ExternalFields.CommandLine

open FileSystem

variable {σ : Type} {world : World σ}

/-! ## Schemas -/

/-- A manifest that can be read brings the schemas of its reference. -/
lemma registryOf_some (store : Store) (server : Server σ) (path : Text) (world : World σ) :
    (registryOf store server (some path)).run.run world
      = match Manifest.load world.files (Path.ofText path) with
        | .error failure => (.error failure, world)
        | .ok manifest => (some <$> ((store.register server manifest.reference).run.run world).1,
            ((store.register server manifest.reference).run.run world).2) := by
  rw [registryOf, Action.run_bind, Action.run_files]
  dsimp only
  rw [Action.run_bind, Action.run_ofExcept]
  cases Manifest.load world.files (Path.ofText path) with
  | error failure => rfl
  | ok manifest => exact Action.run_map _ some

/-! ## Documents -/

/-- The first steps of the command: the schemas, the injection and its document. -/
def rendering (store : Store) (server : Server σ) (fields : Text) (manifest : Option Text) :
    Action σ String := do
  let registered ← registryOf store server manifest
  let injected ← Action.ofExcept id
    (injectFile (← Action.files) registered (Path.ofText fields))
  Action.ofExcept id injected.text

/-- The last step: the document is the result, or goes to a file, whose absolute path is. -/
def deliver (output : Option Text) (document : String) : Action σ Text :=
  match output with
  | none => return document
  | some output => do
    let path := Path.ofText output
    Action.write path (Utf8.encode document)
    return (← Action.ofExcept id (Manifest.absolute (← Action.files) path)).text ++ ("\n" : Text)

/-- **The command renders a document and delivers it.** -/
lemma injectCommand_steps (store : Store) (server : Server σ) (fields : Text)
    (manifest output : Option Text) :
    injectCommand store server fields manifest output
      = rendering store server fields manifest >>= deliver output := by
  rw [injectCommand, rendering]
  simp only [bind_assoc]
  cases output <;> rfl

/-- **Rendering** reads the fields file once the schemas are found out, and changes nothing. -/
lemma rendering_run (store : Store) (server : Server σ) (fields : Text) (manifest : Option Text)
    (world : World σ) :
    (rendering store server fields manifest).run.run world
      = match (registryOf store server manifest).run.run world with
        | (.error failure, between) => (.error failure, between)
        | (.ok registered, between) =>
          (injectFile between.files registered (Path.ofText fields) >>= Injected.text,
            between) := by
  rw [rendering, Action.run_bind]
  rcases (registryOf store server manifest).run.run world with ⟨failure | registered, between⟩
  · rfl
  · dsimp only
    rw [Action.run_bind, Action.run_files]
    dsimp only
    rw [Action.run_bind, Action.run_ofExcept]
    rcases injectFile between.files registered (Path.ofText fields) with failure | injected
    · rfl
    · dsimp only [Except.mapError]
      rw [Action.run_ofExcept, ok_bind]
      cases injected.text <;> rfl

/-- **Delivering** to a file writes all of the document, or nothing. -/
lemma deliver_run (output : Text) (document : String) (world : World σ) :
    (deliver (some output) document).run.run world
      = match world.files.write (Path.ofText output) (Utf8.encode document) with
        | .error e => (.error (.file e), world)
        | .ok files => (.ok ((files.resolve (Path.ofText output)).text ++ ("\n" : Text)),
            world.withFiles files) := by
  rw [deliver, Action.run_bind, Action.run_write]
  cases written : world.files.write (Path.ofText output) (Utf8.encode document) with
  | error e => rfl
  | ok files =>
      have usable := isUsable_of_checkPath (checkPath_of_write written)
      dsimp only
      rw [Action.run_bind, Action.run_files]
      dsimp only
      rw [Action.run_bind, Action.run_ofExcept, Manifest.absolute, if_pos usable]
      rfl

end ExternalFields.CommandLine
