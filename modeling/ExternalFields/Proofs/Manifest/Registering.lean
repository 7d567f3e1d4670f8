import ExternalFields.Proofs.Injection.Failure
import ExternalFields.Proofs.Manifest.References
import ExternalFields.Proofs.Schema.Traces

/-!
# From manifests to registered schemas

What a manifest declares decides which schemas there are.  Data that cannot be read, or a reference
without the mark of versions, is refused before anything else happens; without a reference there are
no schemas, and every marked field fails for that reason; otherwise there is one schema, if it can
be loaded.

The decision is made in two stages, the reading of the data and the load, and only the first of them
looks at the data.  So whatever does not change the reference changes nothing at all.

* `Store.registerFrom`: the schemas that the data of a manifest declares.
* `Manifest.Holds`: files that hold that data; the commands find their schemas in these.
* `Manifest.IsRefused`: the data that is refused.
* `inject_unregistered`: injection without any schema.
* **`Store.registerFrom_decided`**: all of this together.
-/

namespace ExternalFields

open Yaml Manifest

variable {σ : Type} {store : Store} {server : Server σ} {world after : World σ} {data : Value}

/-- The schemas that the data of a manifest declares. -/
def Store.registerFrom (store : Store) (server : Server σ) (data : Value) :
    Action σ Registry := do
  let reference ← Action.ofExcept .configuration (referenceIn data)
  store.register server reference

lemma Store.registerFrom_run (store : Store) (server : Server σ) (data : Value)
    (world : World σ) :
    (store.registerFrom server data).run.run world
      = match referenceIn data with
        | .error e => (.error (.configuration e), world)
        | .ok reference => (store.register server reference).run.run world := by
  rw [registerFrom, Action.run_bind, Action.run_ofExcept]
  cases referenceIn data <;> rfl

/-! ## Manifest files -/

/-- A file that holds some data. -/
structure Manifest.Holds (files : FileSystem) (path : Path) (data : Value) : Prop where
  there : files.exists? path = .ok true
  content : ∃ octets chars, files.read path = .ok octets ∧ textOf octets = .ok chars
    ∧ Value.read chars = .ok data

section

variable {files : FileSystem} {path : Path}

lemma Manifest.Holds.load (holds : Holds files path data) :
    Manifest.load files path = match referenceIn data with
      | .error e => .error (.configuration e)
      | .ok reference => .ok { path, reference } := by
  obtain ⟨octets, chars, read, decoded, parsed⟩ := holds.content
  cases declares : referenceIn data with
  | error e | ok reference =>
      simp only [Manifest.load, holds.there, read, ofOctets, decoded, parsed, declares]

end

/-- The command for one file finds its schemas in the manifest that it is given. -/
lemma CommandLine.registryOf_holds {path : Text}
    (holds : Holds world.files (Path.ofText path) data) :
    (registryOf store server (some path)).run.run world
      = (some <$> ((store.registerFrom server data).run.run world).1,
        ((store.registerFrom server data).run.run world).2) := by
  rw [registryOf_some, holds.load, Store.registerFrom_run]
  cases referenceIn data <;> rfl

/-- A build finds its schemas in the manifest of the package. -/
lemma Package.registry_holds {root : Path}
    (holds : Holds world.files (root.join usualPath) data) :
    (registry store server root).run.run world
      = (some <$> ((store.registerFrom server data).run.run world).1,
        ((store.registerFrom server data).run.run world).2) := by
  rw [registry_run, find, holds.there]
  dsimp only
  rw [holds.load, Store.registerFrom_run]
  cases referenceIn data <;> rfl

/-! ## Without any schema -/

/-- Without any schema, injection fails with the first mark, if there is one. -/
lemma inject_unregistered (fields : List Field) :
    failureOf? (inject (some {}) fields)
      = ((occurrences [] fields).findSome? fun o => o.field.ownSchema).map .notRegistered := by
  have unregistered : Occurrence.failure? (some {})
      = Option.map .notRegistered ∘ fun o => o.field.ownSchema := by
    funext o
    rw [Occurrence.failure?, Function.comp_apply]
    cases o.field.ownSchema <;> rfl
  rw [inject_eq, failureOf?_map, failureOf?_injectAt, unregistered, List.map_findSome?]

/-- So it fails exactly if any field is marked. -/
lemma inject_unregistered_iff (fields : List Field) :
    (∃ schema, inject (some {}) fields = .error (.notRegistered schema)) ↔
      ∃ o ∈ occurrences [] fields, o.field.ownSchema.isSome := by
  simp only [← failureOf?_eq_some, inject_unregistered, Option.map_eq_some_iff,
    ImportError.notRegistered.injEq, exists_eq_right, ← Option.isSome_iff_exists,
    List.findSome?_isSome_iff]

/-! ## The decision -/

/-- The data of a manifest that is refused: it cannot be read, or it declares a reference that has
not the mark of versions. -/
inductive Manifest.IsRefused (data : Value) : Prop
  | malformed (malformed : ¬ IsWellFormed data)
  | unmarked (needed : declared data ≠ []) (unmarked : ¬ gitMark <+: declared data)

lemma Manifest.marked_of_accepted (accepted : ¬ IsRefused data) (needed : declared data ≠ []) :
    gitMark <+: declared data := by
  by_contra unmarked
  exact accepted (.unmarked needed unmarked)

lemma Manifest.accepted_of_allowed (wellFormed : IsWellFormed data)
    (allowed : declared data = [] ∨ gitMark <+: declared data) : ¬ IsRefused data := by
  rintro (malformed | ⟨needed, unmarked⟩)
  · exact malformed wellFormed
  · exact allowed.elim needed unmarked

namespace Store

/-- A load with a marked reference does not fail by it. -/
lemma load_marked (calm : server.IsUninterrupted) {schema reference : Text}
    (marked : gitMark <+: reference) {e : ConfigurationError} :
    (store.load server schema reference).run.run world ≠ (.error (.configuration e), after) := by
  intro h
  have retrieves := retrieves_of_failure h rfl (.inl (.configuration e))
  exact gitReference_error.mp (retrieves.configuration calm) marked

/-- A load with a reference brings definitions, if anything. -/
lemma load_needed {schema reference : Text} (needed : reference ≠ []) :
    (store.load server schema reference).run.run world ≠ (.ok none, after) := by
  intro h
  obtain ⟨obtained, -, brought⟩ := retrieves_load needed h
  cases obtained with
  | error failure => cases brought
  | ok content =>
      rw [readingOf, reading] at brought
      split at brought
      · cases brought
      · cases brought
      · split at brought <;> cases brought

/-- The ways in which schemas are found out from the data of a manifest, with the result and the
world that is left. -/
inductive Registers (store : Store) (server : Server σ) (data : Value) (world : World σ) :
    Except Failure Registry → World σ → Prop
  | refused {e : ConfigurationError} (refused : IsRefused data) :
      Registers store server data world (.error (.configuration e)) world
  | undeclared (accepted : ¬ IsRefused data) (unneeded : declared data = []) :
      Registers store server data world (.ok {})
        (world.logging logName (Text.uppercase ecsSchema ++ " dependency isn't defined"))
  | loaded {definitions : List Definition} {after : World σ} (accepted : ¬ IsRefused data)
      (needed : declared data ≠ [])
      (loads : (store.load server ecsSchema (declared data)).run.run world
        = (.ok (some definitions), after)) :
      Registers store server data world (.ok { schemas := [(ecsSchema, definitions)] }) after
  | failed {failure : Failure} {after : World σ} (accepted : ¬ IsRefused data)
      (needed : declared data ≠ [])
      (loads : (store.load server ecsSchema (declared data)).run.run world
        = (.error failure, after)) :
      Registers store server data world (.error failure) after

variable {result : Except Failure Registry}

/-- A reference that is declared by well-formed data is refused, empty, or loaded. -/
lemma registers_register (wellFormed : IsWellFormed data)
    (h : (store.register server (declared data)).run.run world = (result, after)) :
    Registers store server data world result after := by
  rw [Package.register_run] at h
  rcases eq_or_ne (declared data) [] with unneeded | needed
  · have accepted := accepted_of_allowed wellFormed (.inl unneeded)
    rw [unneeded, load_run] at h
    cases h
    exact .undeclared accepted unneeded
  · by_cases marked : gitMark <+: declared data
    · have accepted := accepted_of_allowed wellFormed (.inr marked)
      rcases loads : (store.load server ecsSchema (declared data)).run.run world with
        ⟨failure | _ | definitions, last⟩
      · rw [loads] at h
        cases h
        exact .failed accepted needed loads
      · exact absurd loads (load_needed needed)
      · rw [loads] at h
        cases h
        exact .loaded accepted needed loads
    · obtain ⟨e, unnamed⟩ := gitReference_error.mpr marked
      rw [load_run, if_neg (by simpa using needed), retrieve_run, unnamed] at h
      cases h
      exact .refused (.unmarked needed marked)

/-- **There are no other ways.** -/
lemma registers_run (h : (store.registerFrom server data).run.run world = (result, after)) :
    Registers store server data world result after := by
  rw [registerFrom_run] at h
  cases read : referenceIn data with
  | error e =>
      rw [read] at h
      cases h
      refine .refused (.malformed fun wellFormed => ?_)
      cases read.symm.trans (referenceIn_ok_iff.mpr ⟨wellFormed, rfl⟩)
  | ok reference =>
      obtain ⟨wellFormed, rfl⟩ := referenceIn_ok_iff.mp read
      rw [read] at h
      exact registers_register wellFormed h

/-- **From manifests to registered schemas.**  Finding out the schemas that the data of a manifest
declares fails by the configuration exactly if the data is refused, and then nothing has happened.
If no reference is declared, there is no schema; nothing has been requested, no file has changed,
and injection fails for want of a schema as soon as any field is marked.  Otherwise there is the
common schema, with the definitions that a load of the reference brings, or the failure is that of
the load.  Other keys, and blanks around the reference, change nothing; and the commands find the
same schemas in a file that holds the data. -/
theorem registerFrom_decided (calm : server.IsUninterrupted)
    (h : (store.registerFrom server data).run.run world = (result, after)) :
    ((∃ e, result = .error (.configuration e)) ↔ IsRefused data) ∧
    (IsRefused data → after = world) ∧
    (¬ IsRefused data → declared data = [] →
      result = .ok {} ∧ after.requests = world.requests ∧ after.files = world.files
        ∧ ∀ fields, (∃ schema, inject (some {}) fields = .error (.notRegistered schema)) ↔
          ∃ o ∈ occurrences [] fields, o.field.ownSchema.isSome) ∧
    (¬ IsRefused data → declared data ≠ [] →
      ∃ loaded, (store.load server ecsSchema (declared data)).run.run world = (loaded, after) ∧
        ((∃ definitions, loaded = .ok (some definitions)
            ∧ result = .ok { schemas := [(ecsSchema, definitions)] })
          ∨ ∃ failure, loaded = .error failure ∧ result = .error failure)) ∧
    (∀ dressed, Dresses data dressed →
      (store.registerFrom server dressed).run.run world = (result, after)) ∧
    (∀ path, Holds world.files (Path.ofText path) data →
      (CommandLine.registryOf store server (some path)).run.run world = (some <$> result, after)) ∧
    ∀ root, Holds world.files (root.join usualPath) data →
      (Package.registry store server root).run.run world = (some <$> result, after) := by
  have registers := registers_run h
  refine ⟨⟨?_, fun refused => ?_⟩, fun refused => ?_, fun accepted unneeded => ?_,
    fun accepted needed => ?_, fun dressed dresses => ?_, fun path holds => ?_,
    fun root holds => ?_⟩
  · rintro ⟨e, rfl⟩
    cases registers with
    | refused refused => exact refused
    | failed accepted needed loads =>
        exact absurd loads (load_marked calm (marked_of_accepted accepted needed))
  · cases registers with
    | refused _ => exact ⟨_, rfl⟩
    | undeclared accepted _ | loaded accepted _ _ | failed accepted _ _ =>
        exact absurd refused accepted
  · cases registers with
    | refused _ => rfl
    | undeclared accepted _ | loaded accepted _ _ | failed accepted _ _ =>
        exact absurd refused accepted
  · cases registers with
    | refused refused => exact absurd refused accepted
    | undeclared _ _ => exact ⟨rfl, rfl, rfl, inject_unregistered_iff⟩
    | loaded _ needed _ | failed _ needed _ => exact absurd unneeded needed
  · cases registers with
    | refused refused => exact absurd refused accepted
    | undeclared _ unneeded => exact absurd unneeded needed
    | loaded _ _ loads => exact ⟨_, loads, .inl ⟨_, rfl, rfl⟩⟩
    | failed _ _ loads => exact ⟨_, loads, .inr ⟨_, rfl, rfl⟩⟩
  · rw [registerFrom_run, referenceIn_dressed dresses, ← registerFrom_run, h]
  · rw [CommandLine.registryOf_holds holds, h]
  · rw [Package.registry_holds holds, h]

/-- The data of a manifest with a reference, and with other keys at its levels. -/
def manifestOf (reference : Text) (atRoot atDependencies atEcs : Entries) : Value :=
  .mapping (atRoot ++ [(.text "dependencies", .mapping ((.text "ecs", .mapping
    ((.text "reference", .text reference) :: atEcs) none) :: atDependencies) none)]) none

/-- The data of a manifest with a reference only. -/
def bareManifest (reference : Text) : Value := manifestOf reference [] [] []

/-- The data of a manifest with other keys, and with blanks around its reference. -/
def spacedManifest : Value :=
  manifestOf (("\t " : Text) ++ "git@v9" ++ "\n") [(.text "name", .null)] [(.text "kibana", .null)]
    [(.int 1, .text "v9")]

/-- A reference of blanks is none, so that there is no schema; one without the mark is refused; and
blanks and other keys are as if they were not there. -/
theorem registerFrom_decided_blank :
    let found := fun data => (smallStore.registerFrom emptyServer data).run.run roomyWorld
    (found (bareManifest " \n")).1 = .ok {}
      ∧ (∃ e, (found (bareManifest "v9")).1 = .error (.configuration e))
      ∧ (found (bareManifest "v9")).2 = roomyWorld
      ∧ found spacedManifest = found (bareManifest "git@v9") := by
  intro found
  have decided := fun data =>
    registerFrom_decided emptyServer_uninterrupted (Prod.eta (found data)).symm
  have refused : IsRefused (bareManifest "v9") := .unmarked (by decide) (by decide)
  have accepted : ¬ IsRefused (bareManifest " \n") :=
    accepted_of_allowed (referenceIn_ok_iff.mp rfl).1 (.inl (by decide))
  have blank : ∀ s : Text, s.all Text.isBlank → ∀ c ∈ s, Text.isBlank c :=
    fun _ => List.all_eq_true.mp
  have dresses : Dresses (bareManifest "git@v9") spacedManifest :=
    .mapping (.add (by decide) (.change (.mapping (.change (.mapping (.change
      (.text (blank _ (by decide)) (blank _ (by decide))) (.add (by decide) .nil)))
        (.add (by decide) .nil))) .nil))
  obtain ⟨failed, same, -⟩ := decided (bareManifest "v9")
  obtain ⟨-, -, unneeded, -⟩ := decided (bareManifest " \n")
  obtain ⟨-, -, -, -, dressed, -⟩ := decided (bareManifest "git@v9")
  exact ⟨(unneeded accepted (by decide)).1, failed.mpr refused, same refused, dressed _ dresses⟩

end Store

end ExternalFields
