import ExternalFields.CommandLine.Running
import ExternalFields.Proofs.Actions
import ExternalFields.Proofs.Package.Build
import ExternalFields.Proofs.Schema.Retrieval
import ExternalFields.Proofs.Text.Templates

/-!
# What operations fail with

Every failure of an operation is told to the user as an error of the input, or escapes: then it is
of one of four sorts, none of which any operation expects.  A build does not expect two more, which
stand in the way of its manifest or of the paths that it searches.

* `Failure.Escapes`: the failures that no operation expects.
* `Failure.IsOrdinary`: the failures that are told or escape.
* **`load_failsOnly`**: what loading a schema fails with, with the usual server.
* **`injectCommand_failsOnly`**, **`scaffold_failsOnly`**: the commands on single files.
* `Package.Escapes`, **`build_failsOnly`**: builds.
-/

namespace ExternalFields

variable {σ : Type}

/-- A server whose requests are never interrupted: each is answered, or brings no response. -/
def Server.IsUninterrupted (server : Server σ) : Prop :=
  ∀ url world failure, (server url world).1 ≠ .interrupted failure

namespace Failure

variable {files : FileSystem}

/-- The failures that no operation on some files expects: data that cannot be read or followed, a
file that is not text in the place of a manifest, halves of pairs in what is shown, and paths that
no file can have. -/
inductive Escapes (files : FileSystem) : Failure → Prop where
  | data (e : Yaml.ReadError) : Escapes files (.data e)
  | encoding {path : Path} {octets : Octets} {fault : Utf8.Fault} :
      files.read path = .ok octets → Utf8.decode octets = .error fault →
        Escapes files (.encoding fault)
  | unencodable : Escapes files .unencodable
  | unusable {path : Path} : path.isUsable = false → Escapes files (.file ⟨.unusable, path⟩)

lemma Escapes.of_founded : ∀ {e : FileError}, e.IsFounded → e.obstacle = .unusable →
    Escapes files (.file e)
  | ⟨_, _⟩, founded, rfl => .unusable (founded rfl)

/-- A failure that is told as an error of the input, or escapes. -/
def IsOrdinary (files : FileSystem) (failure : Failure) : Prop :=
  failure.isReported ∨ Escapes files failure

lemma file_ordinary (e : FileError) (founded : e.IsFounded) : IsOrdinary files (.file e) := by
  by_cases unusable : e.obstacle = .unusable
  · exact .inr (.of_founded founded unusable)
  · exact .inl (bne_iff_ne.mpr unusable)

lemma ofDocument_ordinary : ∀ e : DocumentError, IsOrdinary files (ofDocument e)
  | .unusable e => .inr (.data e)
  | .fieldsNotList _ | .fieldNotMapping _ | .fieldWithoutName _ | .definitionsNotCollection _
  | .definitionNotMapping _ | .definitionWithoutName _ | .notText .. | .notFlag ..
  | .notTexts .. => .inl rfl

/-- The failures of a schema: those of its reference and of itself, and some that escape. -/
inductive IsOfSchema : Failure → Prop where
  | configuration (e : ConfigurationError) : IsOfSchema (.configuration e)
  | schema (e : SchemaError) : IsOfSchema (.schema e)
  | data (e : Yaml.ReadError) : IsOfSchema (.data e)
  | unusable {path : Path} : path.isUsable = false → IsOfSchema (.file ⟨.unusable, path⟩)

lemma IsOfSchema.of_founded : ∀ {e : FileError}, e.IsFounded → e.obstacle = .unusable →
    IsOfSchema (.file e)
  | ⟨_, _⟩, founded, rfl => .unusable (founded rfl)

lemma IsOfSchema.ordinary {failure : Failure} (of_schema : failure.IsOfSchema) :
    IsOrdinary files failure := by
  cases of_schema with
  | configuration e => exact .inl rfl
  | schema e => exact .inl rfl
  | data e => exact .inr (.data e)
  | unusable unusable => exact .inr (.unusable unusable)

/-- The failures of the manifest at a path. -/
inductive IsOfManifest (files : FileSystem) (path : Path) : Failure → Prop where
  | configuration (e : ConfigurationError) : IsOfManifest files path (.configuration e)
  | tooLong : IsOfManifest files path (.file ⟨.nameTooLong, path⟩)
  | directory : files.find path = .ok .directory →
      IsOfManifest files path (.file ⟨.isDirectory, path⟩)
  | encoding {octets : Octets} {fault : Utf8.Fault} :
      files.read path = .ok octets → Utf8.decode octets = .error fault →
        IsOfManifest files path (.encoding fault)
  | data (e : Yaml.ReadError) : IsOfManifest files path (.data e)

lemma IsOfManifest.ordinary {path : Path} {failure : Failure}
    (of_manifest : IsOfManifest files path failure) : IsOrdinary files failure := by
  cases of_manifest with
  | configuration e => exact .inl rfl
  | tooLong => exact .inl rfl
  | directory _ => exact .inl rfl
  | encoding read not_text => exact .inr (.encoding read not_text)
  | data e => exact .inr (.data e)

end Failure

open Failure

/-! ## Manifests -/

namespace Manifest

lemma decode_of_textOf {octets : Octets} {fault : Utf8.Fault}
    (not_text : textOf octets = .error fault) : Utf8.decode octets = .error fault := by
  rw [textOf] at not_text
  cases decoded : Utf8.decode octets with
  | ok chars =>
      rw [decoded] at not_text
      cases not_text
  | error other =>
      rw [decoded] at not_text
      exact congrArg _ (Except.error.inj not_text)

lemma ofOctets_failsOnly {files : FileSystem} {path : Path} {octets : Octets}
    (read : files.read path = .ok octets) :
    FailsOnly (IsOfManifest files path) (ofOctets path octets) := by
  rw [ofOctets]
  split
  · next fault not_text => exact .error (.encoding read (decode_of_textOf not_text))
  · split
    · exact .error (.configuration _)
    · next e _ _ => exact .error (.data e)
    · split
      · next e _ => exact .error (.configuration e)
      · exact .ok _

lemma load_failsOnly (files : FileSystem) (path : Path) :
    FailsOnly (IsOfManifest files path) (load files path) := by
  rw [load]
  split
  · next e failed => exact .error (FileSystem.test_error e failed ▸ .tooLong)
  · exact .error (.configuration _)
  · next there =>
      split
      · next e failed =>
          obtain ⟨rfl, directory⟩ := FileSystem.read_error there e failed
          exact .error (.directory directory)
      · next read => exact ofOctets_failsOnly read

lemma find_failsOnly (files : FileSystem) (package : Path) :
    FailsOnly (IsOfManifest files (package.join usualPath)) (find files package) := by
  rw [find]
  split
  · next e failed => exact .error (FileSystem.test_error e failed ▸ .tooLong)
  · exact .ok none
  · exact (load_failsOnly files _).map some

lemma absolute_failsOnly {start : FileSystem} (files : FileSystem) (path : Path) :
    FailsOnly (Failure.Escapes start) (absolute files path) := by
  rw [absolute]
  split
  · exact .ok _
  · next unusable => exact .error (.unusable (Bool.eq_false_of_not_eq_true unusable))

/-- A manifest is not written over anything, and not where no file can be. -/
theorem scaffold_failsOnly (start : FileSystem) (path : Path) :
    Action.FailsOnly (IsOrdinary start) (scaffold path : Action σ Path) := by
  rw [scaffold]
  refine .bind .files fun files => ?_
  refine .bind (.ofExcept fun e failed => .inl ?_) fun present => ?_
  · rw [FileSystem.test_error e failed]
    rfl
  have rest : Action.FailsOnly (IsOrdinary start) (do
      Action.makeDirectories path.parent
      Action.write path (Utf8.encode template)
      Action.ofExcept id (absolute (← Action.files) path) : Action σ Path) := by
    refine .bind (.makeDirectories _ file_ordinary) fun _ => ?_
    refine .bind (.write _ _ file_ordinary) fun _ => ?_
    refine .bind .files fun files => ?_
    exact .ofExcept fun e failed => .inr (absolute_failsOnly files path e failed)
  cases present with
  | false => exact rest
  | true => exact .bind (.throw (.inl rfl)) fun _ => rest

end Manifest

/-! ## Schemas -/

namespace Store

variable {store : Store} {server : Server σ} {schema reference : Text} {world after : World σ}

/-- A store whose template of addresses can be filled for every version. -/
def IsAddressed (store : Store) : Prop := ∀ version, ∃ url, store.url version = .ok url

lemma cached_failsOnly (files : FileSystem) (entry : Path) :
    FailsOnly IsOfSchema (cached files entry) := by
  rw [cached]
  split
  · exact .ok _
  · next failed =>
      split
      · exact .ok none
      · next unusable => exact .error (.of_founded (FileSystem.read_founded _ failed) unusable)
      · exact .error (.schema _)

lemma cacheFailure_ofSchema (wrap : Path → SchemaError) (path : Path) {e : FileError}
    (founded : e.IsFounded) : (cacheFailure wrap path e).IsOfSchema := by
  rw [cacheFailure]
  split
  · next unusable => exact .of_founded founded unusable
  · exact .schema _

/-- A reply brings content, or the failure of a schema, unless the request was interrupted. -/
lemma content_failsOnly {url : Text} : ∀ {reply : Reply},
    (∀ failure, reply ≠ .interrupted failure) → FailsOnly IsOfSchema (reply.content schema url)
  | .noResponse, _ => .error (.schema _)
  | .interrupted failure, calm => absurd rfl (calm failure)
  | .response status body, _ => by
      unfold Reply.content
      split
      · exact .error (.schema _)
      · exact .error (.schema _)
      · exact .ok _
      · exact .error (.schema _)
      · next same => cases same

/-- What a retrieval fails with is a failure of the schema. -/
lemma Retrieves.failsOnly (addressed : store.IsAddressed) (calm : server.IsUninterrupted)
    {obtained : Except Failure Octets}
    (run : Retrieves store server schema reference world obtained after) :
    FailsOnly IsOfSchema obtained := by
  have replied {version url : Text} {reply : Reply} {replied : World σ}
      (asks : Asks store server schema reference version url world reply replied) :
      FailsOnly IsOfSchema (reply.content schema url) := by
    refine content_failsOnly fun failure same => ?_
    refine calm url (asking schema reference url world) failure ?_
    rw [asks.replied, same]
  cases run with
  | unversioned _ => exact .error (.configuration _)
  | unreadable _ failed => exact .error (cached_failsOnly _ _ _ failed)
  | cached _ _ => exact .ok _
  | addressless _ _ failed =>
      obtain ⟨url, filled⟩ := addressed _
      cases filled.symm.trans failed
  | refused asks failed => exact .error (replied asks _ failed)
  | unhoused _ _ failed =>
      have founded := FileSystem.makeDirectories_founded _ (congrArg Prod.fst failed)
      exact .error (cacheFailure_ofSchema _ _ founded)
  | unkept _ _ _ failed =>
      exact .error (cacheFailure_ofSchema _ _ (FileSystem.write_founded _ _ failed))
  | kept _ _ _ _ => exact .ok _

lemma reading_failsOnly (store : Store) (schema reference : Text) (content : Octets) :
    FailsOnly IsOfSchema (store.reading schema reference content) := by
  rw [reading]
  split
  · exact .ok _
  · next e _ => exact .error (.data e)
  · split
    · exact .error (.schema _)
    · exact .error (.configuration _)

/-- **What loading a schema fails with** is a failure of its reference or of the schema, or one of
data and paths that escapes. -/
theorem load_failsOnly (addressed : store.IsAddressed) (calm : server.IsUninterrupted)
    (schema reference : Text) :
    Action.FailsOnly IsOfSchema (store.load server schema reference) := by
  intro world
  rw [load_run]
  split
  · exact .ok none
  · rcases run : (store.retrieve server schema reference).run.run world with
      ⟨failure | content, after⟩
    · exact .error ((retrieves_run run).failsOnly addressed calm failure rfl)
    · exact reading_failsOnly store schema reference content

lemma register_failsOnly (addressed : store.IsAddressed) (calm : server.IsUninterrupted)
    (reference : Text) : Action.FailsOnly IsOfSchema (store.register server reference) := by
  intro world
  rw [Package.register_run]
  exact (load_failsOnly addressed calm ecsSchema reference world).map _

end Store

/-! ## Fields files -/

section

variable {start : FileSystem}

lemma loadFields_failsOnly (files : FileSystem) (path : Path) :
    FailsOnly (IsOrdinary start) (loadFields files path) := by
  rw [loadFields]
  split
  · next e failed => exact .error (file_ordinary e (FileSystem.read_founded e failed))
  · rw [fieldsOfOctets]
    split
    · exact .error (.inl rfl)
    · split
      · exact .error (.inl rfl)
      · next e _ _ => exact .error (.inr (.data e))
      · exact .mapError fun e _ => ofDocument_ordinary e

lemma injectFile_failsOnly (files : FileSystem) (registered : Option Registry) (path : Path) :
    FailsOnly (IsOrdinary start) (injectFile files registered path) := by
  rw [injectFile]
  refine (loadFields_failsOnly files path).bind fun fields _ => ?_
  exact .mapError fun e _ => .inl rfl

lemma text_failsOnly (injected : Injected) : FailsOnly (IsOrdinary start) injected.text :=
  .mapError fun e _ => .inr (.data e)

end

/-! ## Commands -/

namespace CommandLine

variable {store : Store} {server : Server σ}

/-- The manifest is the first thing that is read: it is one of the files that are there. -/
lemma registryOf_failsOnly (addressed : store.IsAddressed) (calm : server.IsUninterrupted)
    (manifest : Option Text) (world : World σ) : FailsOnly (IsOrdinary world.files)
      ((registryOf store server manifest).run.run world).1 := by
  cases manifest with
  | none => exact .ok none
  | some path =>
      rw [registryOf.eq_def, Action.run_bind, Action.run_files]
      refine Action.FailsOnly.bind_in ?_ fun manifest => ?_
      · rw [Action.run_ofExcept]
        exact .mapError fun e failed => (Manifest.load_failsOnly _ _ e failed).ordinary
      · refine .map (fun later => ?_) some
        exact (store.register_failsOnly addressed calm manifest.reference later).mono
          fun _ => IsOfSchema.ordinary

/-- **What an injection fails with** is told as an error of the input, or escapes. -/
theorem injectCommand_failsOnly (addressed : store.IsAddressed) (calm : server.IsUninterrupted)
    (fields : Text) (manifest output : Option Text) (world : World σ) :
    FailsOnly (IsOrdinary world.files)
      ((injectCommand store server fields manifest output).run.run world).1 := by
  rw [injectCommand]
  refine Action.FailsOnly.bind_in (registryOf_failsOnly addressed calm manifest world)
    fun registered => ?_
  refine .bind .files fun files => ?_
  refine .bind (.ofExcept fun e failed => injectFile_failsOnly files registered _ e failed)
    fun injected => ?_
  refine .bind (.ofExcept fun e failed => text_failsOnly injected e failed) fun text => ?_
  cases output with
  | none => exact fun world => .ok _
  | some output =>
      refine .bind (.write _ _ file_ordinary) fun _ => ?_
      refine .bind .files fun files => ?_
      refine .bind (.ofExcept fun e failed => .inr (Manifest.absolute_failsOnly files _ e failed))
        fun path => ?_
      exact .pure _

end CommandLine

/-! ## Builds -/

namespace Package

variable {store : Store} {server : Server σ} {start : FileSystem} {root : Path}

/-- The failures that a build of the package at `root` does not expect: besides those that no
operation expects, paths that are too long to search, and a directory in the place of the
manifest. -/
inductive Escapes (files : FileSystem) (root : Path) : Failure → Prop where
  | everywhere {failure : Failure} : Failure.Escapes files failure → Escapes files root failure
  | tooLong {e : FileError} : e.obstacle = .nameTooLong → Escapes files root (.file e)
  | directory : files.find (root.join Manifest.usualPath) = .ok .directory →
      Escapes files root (.file ⟨.isDirectory, root.join Manifest.usualPath⟩)

/-- What a build can fail with: why the package cannot be built, or what escapes. -/
def IsOfBuild (files : FileSystem) (root : Path) (failure : Failure) : Prop :=
  failure.isOfPackage ∨ Escapes files root failure

lemma registryFailure_ofManifest {failure : Failure}
    (of_manifest : IsOfManifest start (root.join Manifest.usualPath) failure) :
    IsOfBuild start root (registryFailure failure) := by
  cases of_manifest with
  | configuration e => exact .inl rfl
  | tooLong => exact .inr (.tooLong rfl)
  | directory there => exact .inr (.directory there)
  | encoding read not_text => exact .inr (.everywhere (.encoding read not_text))
  | data e => exact .inr (.everywhere (.data e))

lemma registryFailure_ofSchema {failure : Failure} (of_schema : failure.IsOfSchema) :
    IsOfBuild start root (registryFailure failure) := by
  cases of_schema with
  | configuration e => exact .inl rfl
  | schema e => exact .inl rfl
  | data e => exact .inr (.everywhere (.data e))
  | unusable unusable => exact .inr (.everywhere (.unusable unusable))

lemma fileFailure_ordinary {failure : Failure} (source : Path)
    (ordinary : IsOrdinary start failure) : IsOfBuild start root (fileFailure source failure) := by
  rw [fileFailure]
  split
  · exact .inl rfl
  · next untold => exact .inr (.everywhere (ordinary.resolve_left untold))

lemma registry_failsOnly (addressed : store.IsAddressed) (calm : server.IsUninterrupted)
    (root : Path) (world : World σ) :
    FailsOnly (fun failure => IsOfBuild world.files root (registryFailure failure))
      ((registry store server root).run.run world).1 := by
  rw [registry, Action.run_bind, Action.run_files]
  refine Action.FailsOnly.bind_in ?_ fun manifest => ?_
  · rw [Action.run_ofExcept]
    exact .mapError fun e failed =>
      registryFailure_ofManifest (Manifest.find_failsOnly _ root e failed)
  · cases manifest with
    | none => exact .pure none
    | some manifest =>
        refine .map (fun later => ?_) some
        exact (store.register_failsOnly addressed calm manifest.reference later).mono
          fun _ => registryFailure_ofSchema

lemma fieldsFilesIn_failsOnly (files : FileSystem) (root directory : Path) :
    FailsOnly (·.obstacle = .nameTooLong) (fieldsFilesIn files root directory) := by
  rw [fieldsFilesIn]
  refine .bind (FileSystem.entries_error.mono fun _ same => same ▸ rfl) fun listing _ => ?_
  exact .filterM fun path _ => FileSystem.test_error.mono fun _ same => same ▸ rfl

lemma fieldsFiles_failsOnly (files : FileSystem) (root : Path) :
    FailsOnly (·.obstacle = .nameTooLong) (fieldsFiles files root) := by
  rw [fieldsFiles, streams]
  refine (fieldsFilesIn_failsOnly files root _).bind fun own _ => ?_
  refine .bind (.bind (FileSystem.entries_error.mono fun _ same => same ▸ rfl) fun _ _ => .ok _)
    fun streams _ => ?_
  refine .bind (.mapM fun stream _ => fieldsFilesIn_failsOnly files root _) fun _ _ => ?_
  exact .ok _

lemma buildFile_failsOnly (start : FileSystem) (registered : Option Registry)
    (source destination : Path) :
    Action.FailsOnly (IsOrdinary start) (buildFile registered source destination : Action σ Bool) := by
  rw [buildFile]
  refine .bind .files fun files => ?_
  refine .bind (.ofExcept fun e failed => injectFile_failsOnly files registered source e failed)
    fun injected => ?_
  refine .bind (.makeDirectories _ file_ordinary) fun _ => ?_
  refine .bind (.ofExcept fun e failed => text_failsOnly injected e failed) fun text => ?_
  refine .bind (.write _ _ file_ordinary) fun _ => ?_
  exact .pure _

lemma buildFiles_failsOnly (start : FileSystem) (registered : Option Registry)
    (root output : Path) :
    ∀ (paths : List Path) (world : World σ),
      FailsOnly (IsOfBuild start root) (buildFiles registered root output paths world).1
  | [], world => .ok _
  | path :: rest, world => by
      have step := buildFile_failsOnly start registered (root.join path)
        (output.join path) world
      rw [buildFiles]
      rcases run : (buildFile registered (root.join path) (output.join path)).run.run world with
        ⟨failure | changed, after⟩
      · rw [run] at step
        exact .error (fileFailure_ordinary _ (step failure rfl))
      · dsimp only
        generalize (if changed then after.logging logName _ else after) = logged
        have others := buildFiles_failsOnly start registered root output rest logged
        rcases run : buildFiles registered root output rest logged with ⟨failure | built, after⟩
        · rw [run] at others
          exact .error (others failure rfl)
        · exact .ok _

/-- **What a build fails with** says why the package cannot be built, or escapes. -/
theorem build_failsOnly (addressed : store.IsAddressed) (calm : server.IsUninterrupted)
    (root output : Path) (world : World σ) :
    FailsOnly (IsOfBuild world.files root) (build store server root output world).1 := by
  rw [build]
  split
  · next e failed =>
      exact .error (.inr (.tooLong (congrArg FileError.obstacle (FileSystem.test_error e failed))))
  · exact .error (.inl rfl)
  · have schemas := registry_failsOnly addressed calm root world
    rcases run : (registry store server root).run.run world with ⟨failure | registered, declared⟩
    · rw [run] at schemas
      exact .error (schemas failure rfl)
    · dsimp only
      split
      · next e failed => exact .error (.inr (.tooLong (fieldsFiles_failsOnly _ _ e failed)))
      · next paths found =>
          have files := buildFiles_failsOnly world.files registered root output paths declared
          rcases run : buildFiles registered root output paths declared with
            ⟨failure | built, after⟩
          · rw [run] at files
            exact .error (files failure rfl)
          · dsimp only
            split
            · next failure failed =>
                exact .error (.inr (.everywhere (Manifest.absolute_failsOnly _ _ failure failed)))
            · exact .ok _

end Package

end ExternalFields
