import ExternalFields.Proofs.Actions
import ExternalFields.Proofs.Package.FieldsFiles
import ExternalFields.Proofs.Schema.Confinement

/-!
# Building files one after the other

Each fields file is injected and written before the next one is read, into the same file system.
As long as no destination is the place of another source, a file is injected as it was in the
beginning, and what has been written stays.  That is the invariant of a run of builds (`Leaves`):
the destinations of the files built so far hold the texts of their injections, and all other files
are as they were.

* `FailsWith`, **`buildFile_step`**: what building one file does, and what it fails with.
* `IsSeparate`: sources, destinations and the cache apart from each other.
* `Leaves`, **`Leaves.step`**, **`Leaves.run`**: the invariant, for one file and for a run.
-/

namespace ExternalFields.Package

open FileSystem

variable {σ : Type} {store : Store} {server : Server σ} {root output source destination : Path}
  {registered : Option Registry} {world after : World σ}

/-! ## One file -/

lemma buildFile_run (registered : Option Registry) (source destination : Path) (world : World σ) :
    (buildFile registered source destination).run.run world
      = match injectFile world.files registered source with
        | .error failure => (.error failure, world)
        | .ok injected =>
          match world.files.makeDirectories destination.parent with
          | (.error e, made) => (.error (.file e), world.withFiles made)
          | (.ok (), made) =>
            match injected.text with
            | .error failure => (.error failure, world.withFiles made)
            | .ok text =>
              match made.write destination (Utf8.encode text) with
              | .error e => (.error (.file e), world.withFiles made)
              | .ok written => (.ok injected.changed, (world.withFiles made).withFiles written) := by
  rw [buildFile, Action.run_bind, Action.run_files]
  dsimp only
  rw [Action.run_bind, Action.run_ofExcept]
  cases injectFile world.files registered source with
  | error failure => rfl
  | ok injected =>
      dsimp only [Except.mapError]
      rw [Action.run_bind, Action.run_makeDirectories]
      rcases world.files.makeDirectories destination.parent with ⟨e | _, made⟩
      · rfl
      · dsimp only [Except.mapError]
        rw [Action.run_bind, Action.run_ofExcept]
        cases injected.text with
        | error failure => rfl
        | ok text =>
            dsimp only [Except.mapError]
            rw [Action.run_bind, Action.run_write]
            cases written : made.write destination (Utf8.encode text) with
            | error e => simp only [World.withFiles, written]
            | ok files => simp only [World.withFiles, written]; rfl

/-- What building a file fails with: injecting it fails, its result cannot be written down, or
there is no place for that. -/
inductive FailsWith (files : FileSystem) (registered : Option Registry) (source : Path) :
    Failure → Prop where
  | injecting {failure : Failure} :
      injectFile files registered source = .error failure →
        FailsWith files registered source failure
  | rendering {injected : Injected} {failure : Failure} :
      injectFile files registered source = .ok injected → injected.text = .error failure →
        FailsWith files registered source failure
  | writing {injected : Injected} {e : FileError} :
      injectFile files registered source = .ok injected →
        FailsWith files registered source (.file e)

/-- **Building one file** writes the text of its injection to its destination, and no other file;
or it fails and writes no file at all. -/
lemma buildFile_step (tree : world.files.IsTree) (no_dot : ("." : Text) ∉ destination.segments)
    {result : Except Failure Bool}
    (h : (buildFile registered source destination).run.run world = (result, after)) :
    after.files.IsTree ∧ world.files.Keeps after.files
      ∧ ((∃ failure, result = .error failure ∧ FailsWith world.files registered source failure
          ∧ ∀ place content, after.files.item? place = some (.file content)
            ↔ world.files.item? place = some (.file content))
        ∨ ∃ injected text, injectFile world.files registered source = .ok injected
          ∧ injected.text = .ok text ∧ result = .ok injected.changed
          ∧ after.files.read destination = .ok (Utf8.encode text)
          ∧ ∀ place, place ≠ world.files.destination destination → ∀ content,
            after.files.item? place = some (.file content)
              ↔ world.files.item? place = some (.file content)) := by
  have up_no_dot := Store.parent_no_dot no_dot
  rcases makeDirectories_grows tree destination.parent with ⟨tree', grown⟩
  have files_kept := fun place content =>
    @makeDirectories_file world.files destination.parent up_no_dot place content
  rw [buildFile_run] at h
  cases injected_eq : injectFile world.files registered source with
  | error failure =>
      rw [injected_eq] at h
      cases h
      exact ⟨tree, (Extends.refl _).keeps,
        .inl ⟨failure, rfl, .injecting injected_eq, fun _ _ => Iff.rfl⟩⟩
  | ok injected =>
      rw [injected_eq] at h
      dsimp only at h
      cases room : world.files.makeDirectories destination.parent with
      | mk housed made =>
          rw [room] at h tree' grown files_kept
          cases housed with
          | error e =>
              cases h
              exact ⟨tree', grown.keeps, .inl ⟨_, rfl, .writing injected_eq, files_kept⟩⟩
          | ok _ =>
              dsimp only at h
              cases text_eq : injected.text with
              | error failure =>
                  rw [text_eq] at h
                  cases h
                  exact ⟨tree', grown.keeps,
                    .inl ⟨_, rfl, .rendering injected_eq text_eq, files_kept⟩⟩
              | ok text =>
                  rw [text_eq] at h
                  dsimp only at h
                  cases wrote : made.write destination (Utf8.encode text) with
                  | error e =>
                      rw [wrote] at h
                      cases h
                      exact ⟨tree', grown.keeps, .inl ⟨_, rfl, .writing injected_eq, files_kept⟩⟩
                  | ok written =>
                      rw [wrote] at h
                      cases h
                      rcases write_leaves tree' no_dot wrote with ⟨written_tree, keeps, items⟩
                      refine ⟨written_tree, grown.keeps.trans keeps, .inr ⟨injected, text, rfl,
                        text_eq, rfl, read_of_write tree' no_dot wrote,
                        fun place other content => ?_⟩⟩
                      have item := items place
                      rw [destination_congr grown.here, if_neg other] at item
                      show written.item? place = _ ↔ _
                      rw [item]
                      exact files_kept place content

/-! ## Several files -/

/-- The places of the cache entries that a package asks for. -/
def IsCachePlace (store : Store) (files : FileSystem) (root : Path) (place : Location) : Prop :=
  ∃ manifest version, Manifest.find files root = .ok (some manifest)
    ∧ gitReference manifest.reference = .ok version
    ∧ place = files.destination (store.entry ecsSchema version)

/-- What is left when the fields files `done` have been built, and nothing else has been done but
to find out the schemas: their destinations hold the texts of their injections, and no other file
has changed, apart from the cache entry. -/
structure Leaves (store : Store) (root output : Path) (registered : Option Registry)
    (before : FileSystem) (done : List Path) (after : FileSystem) : Prop where
  tree : after.IsTree
  keeps : before.Keeps after
  built : ∀ path ∈ done, ∃ injected text,
    injectFile before registered (root.join path) = .ok injected ∧ injected.text = .ok text
      ∧ after.read (output.join path) = .ok (Utf8.encode text)
  others : ∀ place, ¬ IsCachePlace store before root place →
    (∀ path ∈ done, place ≠ before.destination (output.join path)) → ∀ content,
      after.item? place = some (.file content) ↔ before.item? place = some (.file content)

/-- A package and an output directory apart from each other and from the cache: no destination is
the place of another source, and the cache entry is not in the package. -/
structure IsSeparate (store : Store) (files : FileSystem) (root output : Path) : Prop where
  sources : ∀ path other, IsFieldsFile files root path → IsFieldsFile files root other →
    path ≠ other → files.destination (output.join path) ≠ files.destination (root.join other)
  cache : ∀ place, IsCachePlace store files root place → ¬ files.destination root <+: place

variable {before : FileSystem} {done : List Path}

lemma IsFieldsFile.listed (proper : before.IsProper) {path : Path}
    (source : IsFieldsFile before root path) : ∀ name ∈ path.segments, IsListed name := by
  rcases source.file with ⟨content, there⟩
  exact fun name mem => proper.listable.names _ _ there name (List.mem_append_right _ mem)

/-- The place of a fields file, seen from the root of the package or from the output directory. -/
lemma IsFieldsFile.place_eq (proper : before.IsProper) {path : Path}
    (source : IsFieldsFile before root path) (from_here : Path) :
    before.destination (from_here.join path) = before.destination from_here ++ path.segments := by
  have listed := source.listed proper
  rcases path with ⟨start, segments⟩
  rw [show start = [] from source.relative]
  exact destination_join listed

lemma IsFieldsFile.isPlain (proper : before.IsProper) {path : Path}
    (source : IsFieldsFile before root path) {from_here : Path} (plain : from_here.IsPlain) :
    (from_here.join path).IsPlain := by
  have listed := source.listed proper
  rcases path with ⟨start, segments⟩
  rw [show start = [] from source.relative]
  exact isPlain_join plain listed

/-- Different fields files have different destinations. -/
lemma destination_injective (proper : before.IsProper) {path other : Path}
    (source : IsFieldsFile before root path) (other_source : IsFieldsFile before root other)
    (same : before.destination (output.join path) = before.destination (output.join other)) :
    path = other := by
  rw [source.place_eq proper, other_source.place_eq proper] at same
  have segments := List.append_cancel_left same
  have roots := source.relative.trans other_source.relative.symm
  cases path
  cases other
  rw [Path.mk.injEq]
  exact ⟨roots, segments⟩

/-- What is read at a path depends on what is at its place only. -/
lemma read_congr {files other : FileSystem} (tree : files.IsTree) (other_tree : other.IsTree)
    (here : other.here = files.here) {path : Path} (plain : path.IsPlain) {content : Octets}
    (there : files.item? (files.destination path) = some (.file content))
    (other_there : other.item? (files.destination path) = some (.file content)) :
    other.read path = files.read path := by
  rw [← destination_congr here] at other_there
  rw [FileSystem.read, FileSystem.read, find_there tree plain there,
    find_there other_tree plain other_there]

/-- A source is injected as before, unless a destination is in its place. -/
lemma Leaves.injects (proper : before.IsProper) (plain : root.IsPlain)
    (separate : IsSeparate store before root output) {now : FileSystem}
    (leaves : Leaves store root output registered before done now)
    (sources : ∀ path ∈ done, IsFieldsFile before root path) {path : Path}
    (source : IsFieldsFile before root path) (fresh : path ∉ done) (schemas : Option Registry) :
    injectFile now schemas (root.join path) = injectFile before schemas (root.join path) := by
  have place := source.place_eq proper root
  rcases source.file with ⟨content, there⟩
  rw [← place] at there
  have outside : ¬ IsCachePlace store before root (before.destination (root.join path)) := by
    intro cache
    apply separate.cache _ cache
    rw [place]
    exact List.prefix_append _ _
  have untouched : ∀ other ∈ done,
      before.destination (root.join path) ≠ before.destination (output.join other) := by
    intro other mem same
    have different : other ≠ path := by
      rintro rfl
      exact fresh mem
    exact separate.sources other path (sources other mem) source different same.symm
  have read : now.read (root.join path) = before.read (root.join path) :=
    read_congr proper.tree leaves.tree leaves.keeps.here (source.isPlain proper plain) there
      ((leaves.others _ outside untouched content).mpr there)
  rw [ExternalFields.injectFile, ExternalFields.injectFile, loadFields, loadFields, read]

/-- Nothing is added to the files that are built as long as no file changes. -/
lemma Leaves.same {now later : FileSystem}
    (leaves : Leaves store root output registered before done now) (tree : later.IsTree)
    (keeps : now.Keeps later) (files : ∀ place content,
      later.item? place = some (.file content) ↔ now.item? place = some (.file content)) :
    Leaves store root output registered before done later := by
  refine ⟨tree, leaves.keeps.trans keeps, fun path mem => ?_,
    fun place outside untouched content => ?_⟩
  · rcases leaves.built path mem with ⟨injected, text, injected_eq, text_eq, read⟩
    exact ⟨injected, text, injected_eq, text_eq,
      keeps.read read ((files _ _).mpr (item?_of_read read))⟩
  · rw [files, leaves.others place outside untouched]

/-- A file is added to those that are built when its destination changes and nothing else. -/
lemma Leaves.add (proper : before.IsProper) {now later : FileSystem}
    (leaves : Leaves store root output registered before done now)
    (sources : ∀ path ∈ done, IsFieldsFile before root path) {path : Path}
    (source : IsFieldsFile before root path) (fresh : path ∉ done) {injected : Injected}
    {text : String} (injected_eq : injectFile before registered (root.join path) = .ok injected)
    (text_eq : injected.text = .ok text) (tree : later.IsTree) (keeps : now.Keeps later)
    (read : later.read (output.join path) = .ok (Utf8.encode text))
    (files : ∀ place, place ≠ before.destination (output.join path) → ∀ content,
      later.item? place = some (.file content) ↔ now.item? place = some (.file content)) :
    Leaves store root output registered before (done ++ [path]) later := by
  refine ⟨tree, leaves.keeps.trans keeps, fun earlier mem => ?_,
    fun place outside untouched content => ?_⟩
  · rcases List.mem_append.mp mem with mem | mem
    · rcases leaves.built earlier mem with ⟨injected, text, injected_eq, text_eq, read⟩
      have elsewhere : now.destination (output.join earlier)
          ≠ before.destination (output.join path) := by
        rw [destination_congr leaves.keeps.here]
        intro same
        have paths := destination_injective proper (sources earlier mem) source same
        exact fresh (paths ▸ mem)
      exact ⟨injected, text, injected_eq, text_eq,
        keeps.read read ((files _ elsewhere _).mpr (item?_of_read read))⟩
    · rw [List.mem_singleton.mp mem]
      exact ⟨injected, text, injected_eq, text_eq, read⟩
  · rw [files place (untouched path (by simp)), leaves.others place outside fun earlier mem =>
      untouched earlier (List.mem_append_left _ mem)]

/-- **Building one more file**: it is added to those that are built, or it fails and nothing is. -/
theorem Leaves.step (proper : before.IsProper) (plain : root.IsPlain)
    (output_plain : output.IsPlain) (separate : IsSeparate store before root output)
    (leaves : Leaves store root output registered before done world.files)
    (sources : ∀ path ∈ done, IsFieldsFile before root path) {path : Path}
    (source : IsFieldsFile before root path) (fresh : path ∉ done) {result : Except Failure Bool}
    (h : (buildFile registered (root.join path) (output.join path)).run.run world
      = (result, after)) :
    (∃ failure, result = .error failure ∧ FailsWith before registered (root.join path) failure
        ∧ Leaves store root output registered before done after.files)
      ∨ ∃ injected, injectFile before registered (root.join path) = .ok injected
        ∧ result = .ok injected.changed
        ∧ Leaves store root output registered before (done ++ [path]) after.files := by
  have same := leaves.injects proper plain separate sources source fresh registered
  have output_join := source.isPlain proper output_plain
  have no_dot : ("." : Text) ∉ (output.join path).segments := fun mem => (output_join _ mem).1 rfl
  rcases buildFile_step leaves.tree no_dot h with
    ⟨tree, keeps, ⟨failure, rfl, fails, files⟩
      | ⟨injected, text, injected_eq, text_eq, rfl, read, files⟩⟩
  · refine .inl ⟨failure, rfl, ?_, leaves.same tree keeps files⟩
    cases fails with
    | injecting failed => exact .injecting (same.symm.trans failed)
    | rendering injected text => exact .rendering (same.symm.trans injected) text
    | writing injected => exact .writing (same.symm.trans injected)
  · have injected_before := same.symm.trans injected_eq
    rw [destination_congr leaves.keeps.here] at files
    exact .inr ⟨injected, injected_before, rfl,
      leaves.add proper sources source fresh injected_before text_eq tree keeps read files⟩

/-- Whether the injection of a file imports anything. -/
def changes (files : FileSystem) (registered : Option Registry) (source : Path) : Bool :=
  match injectFile files registered source with
  | .ok injected => injected.changed
  | .error _ => false

/-- **A run of builds** adds the files to those that are built, one after the other, up to the first
one that fails. -/
theorem Leaves.run (proper : before.IsProper) (plain : root.IsPlain) (output_plain : output.IsPlain)
    (separate : IsSeparate store before root output) {rest : List Path} :
    ∀ {done : List Path} {world after : World σ}
        {result : Except Failure (List Path × List Path)},
      Leaves store root output registered before done world.files →
      (∀ path ∈ done ++ rest, IsFieldsFile before root path) → (done ++ rest).Nodup →
      buildFiles registered root output rest world = (result, after) →
        (result = .ok (rest.map output.join,
            (rest.filter fun path => changes before registered (root.join path)).map output.join)
          ∧ Leaves store root output registered before (done ++ rest) after.files)
        ∨ ∃ built path further failure, rest = built ++ path :: further
          ∧ result = .error (fileFailure (root.join path) failure)
          ∧ FailsWith before registered (root.join path) failure
          ∧ Leaves store root output registered before (done ++ built) after.files := by
  induction rest with
  | nil =>
      intro done world after result leaves _ _ h
      cases h
      rw [List.append_nil]
      exact .inl ⟨rfl, leaves⟩
  | cons path rest ih =>
      intro done world after result leaves sources nodup h
      have fresh : path ∉ done := by
        intro mem
        exact (List.nodup_append.mp nodup).2.2 path mem path (.head _) rfl
      have source := sources path (by simp)
      rw [buildFiles] at h
      dsimp only at h
      cases run : (buildFile registered (root.join path) (output.join path)).run.run world with
      | mk outcome middle =>
          rw [run] at h
          rcases leaves.step proper plain output_plain separate
            (fun other mem => sources other (List.mem_append_left _ mem)) source fresh run with
            ⟨failure, rfl, fails, left⟩ | ⟨injected, injected_eq, rfl, left⟩
          · cases h
            exact .inr ⟨[], path, rest, failure, rfl, rfl, fails, by simpa using left⟩
          · have further : Leaves store root output registered before (done ++ [path])
                (if injected.changed then middle.logging logName
                  ("Resolved external fields in " ++ path.text) else middle).files := by
              split
              · exact left
              · exact left
            have all : (done ++ [path]) ++ rest = done ++ path :: rest := by simp
            have changed : changes before registered (root.join path) = injected.changed := by
              rw [changes, injected_eq]
            dsimp only at h
            cases run_rest : buildFiles registered root output rest
                (if injected.changed then middle.logging logName
                  ("Resolved external fields in " ++ path.text) else middle) with
            | mk others last =>
                rw [run_rest] at h
                have sources_all := sources
                rw [← all] at sources_all nodup
                rcases ih further sources_all nodup run_rest with
                  ⟨rfl, left⟩ | ⟨built, failing, later, failure, rfl, rfl, fails, left⟩
                · cases h
                  rw [all] at left
                  refine .inl ⟨?_, left⟩
                  rw [List.map_cons, List.filter_cons, changed]
                  cases injected.changed <;> rfl
                · cases h
                  rw [List.append_assoc] at left
                  exact .inr ⟨path :: built, failing, later, failure, rfl, rfl, fails, left⟩

end ExternalFields.Package
