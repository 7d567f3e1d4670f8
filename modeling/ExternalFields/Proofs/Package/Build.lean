import ExternalFields.Proofs.CommandLine.Rendering
import ExternalFields.Proofs.Package.Files
import ExternalFields.Proofs.Schema.Versions
import Mathlib.Data.List.Permutation

/-!
# Builds

A build finds out the schemas of a package, lists its fields files and builds them one after the
other.  Finding out the schemas may write the cache entry, which is not in the package, so that the
files found are the ones that were there.  A build that succeeds has written each of them, with the
text that the command for one file gives; one that stops at a file has written those before it.

* `registry_leaves`: finding out the schemas changes no file of the package.
* `build_cases`: the ways a build can go.
* `injectCommand_eq`: the command for one file gives the text that a build writes.
* **`build_files`**: a build is the injection of its files one by one, up to the first failure.
-/

namespace ExternalFields.Package

open FileSystem

variable {σ : Type} {store : Store} {server : Server σ} {root output : Path}
  {registered : Option Registry} {world after : World σ} {before : FileSystem}

/-! ## Schemas -/

lemma registry_run (store : Store) (server : Server σ) (root : Path) (world : World σ) :
    (registry store server root).run.run world
      = match Manifest.find world.files root with
        | .error failure => (.error failure, world)
        | .ok none => (.ok none, world)
        | .ok (some manifest) =>
          (some <$> ((store.register server manifest.reference).run.run world).1,
            ((store.register server manifest.reference).run.run world).2) := by
  rw [registry, Action.run_bind, Action.run_files]
  dsimp only
  rw [Action.run_bind, Action.run_ofExcept]
  rcases Manifest.find world.files root with failure | _ | manifest
  · rfl
  · rfl
  · exact Action.run_map _ some

lemma register_run (store : Store) (server : Server σ) (reference : Text) (world : World σ) :
    (store.register server reference).run.run world
      = (((store.load server ecsSchema reference).run.run world).1.map fun definitions? =>
          match definitions? with
          | none => {}
          | some definitions => Registry.insert {} ecsSchema definitions,
        ((store.load server ecsSchema reference).run.run world).2) := by
  rw [Store.register, Action.run_bind]
  rcases (store.load server ecsSchema reference).run.run world with
    ⟨failure | _ | definitions, after⟩
  · rfl
  · rfl
  · rfl

/-- A retrieval leaves directories that list what is there. -/
lemma Retrieves.listable {schema reference : Text} {obtained : Except Failure Octets}
    (apart : server.IsApart) (tree : world.files.IsTree) (listable : world.files.IsListable)
    (no_dot : ("." : Text) ∉ store.root.segments)
    (h : Store.Retrieves store server schema reference world obtained after) :
    after.files.IsListable := by
  have housed : ∀ {version url : Text} {reply : Reply} {replied : World σ} {made : FileSystem}
      {room : Except FileError Unit},
      Store.Asks store server schema reference version url world reply replied →
      replied.files.makeDirectories (store.entry schema version).parent = (room, made) →
        made.IsListable := by
    intro version _ _ replied made room asks making
    have later := @makeDirectories_listable _ listable tree (store.entry schema version).parent
      (Store.parent_no_dot (Store.entry_no_dot no_dot schema version))
    rwa [← asks.files apart, making] at later
  cases h with
  | unversioned _ => exact listable
  | unreadable _ _ => exact listable
  | cached _ _ => exact listable
  | addressless _ _ _ => exact listable
  | refused asks _ => rwa [asks.files apart]
  | unhoused asks _ room => exact housed asks room
  | unkept asks _ room _ => exact housed asks room
  | kept asks _ room kept =>
      rcases asks.makeDirectories_grows apart tree room with ⟨tree', -⟩
      exact write_listable (housed asks room) tree' (Store.entry_no_dot no_dot schema _) kept

/-- Finding out the schemas changes no file but the cache entry. -/
lemma registry_leaves (proper : world.files.IsProper) (apart : server.IsApart)
    (no_dot : ("." : Text) ∉ store.root.segments) {schemas : Except Failure (Option Registry)}
    (h : (registry store server root).run.run world = (schemas, after)) :
    after.files.IsListable ∧ Leaves store root output registered world.files [] after.files := by
  have nothing : world.files.IsListable
      ∧ Leaves store root output registered world.files [] world.files :=
    ⟨proper.listable, proper.tree, (Extends.refl _).keeps, by simp, fun _ _ _ _ => Iff.rfl⟩
  rw [registry_run] at h
  rcases found : Manifest.find world.files root with failure | _ | manifest
  · rw [found] at h
    cases h
    exact nothing
  · rw [found] at h
    cases h
    exact nothing
  · rw [found] at h
    dsimp only at h
    rw [register_run] at h
    cases h
    cases run : (store.retrieve server ecsSchema manifest.reference).run.run world with
    | mk obtained last =>
        have retrieves := Store.retrieves_run run
        rcases Store.load_leaves run (Prod.eta _).symm with ⟨files, -⟩
        dsimp only
        rw [files]
        rcases retrieves.keeps apart proper.tree no_dot with ⟨tree, keeps⟩
        refine ⟨Retrieves.listable apart proper.tree proper.listable no_dot retrieves, tree, keeps,
          by simp, fun place outside _ content => ?_⟩
        rcases retrieves.places apart proper.tree no_dot place with
          same | ⟨version, named, ⟨fresh, made, -⟩ | ⟨rfl, -⟩⟩
        · rw [same]
        · simp [fresh, made]
        · exact absurd ⟨manifest, version, found, named, rfl⟩ outside

/-! ## Whole builds -/

/-- A build that does not come to any file: the package is not there, its schemas cannot be found
out, or its files cannot be. -/
def IsUnstarted (store : Store) (server : Server σ) (root : Path) (world : World σ) : Prop :=
  world.files.isDirectory? root ≠ .ok true
    ∨ (∃ cause, ((registry store server root).run.run world).1 = .error cause)
    ∨ ∃ e, fieldsFiles ((registry store server root).run.run world).2.files root = .error e

/-- What a build does, step by step. -/
lemma build_cases {result : Except Failure Build}
    (h : build store server root output world = (result, after)) :
    (∃ failure, result = .error failure ∧ IsUnstarted store server root world
        ∧ (after = world ∨ after = ((registry store server root).run.run world).2))
      ∨ ∃ schemas between paths, world.files.isDirectory? root = .ok true
        ∧ (registry store server root).run.run world = (.ok schemas, between)
        ∧ fieldsFiles between.files root = .ok paths
        ∧ ((∃ failure, buildFiles schemas root output paths between = (.error failure, after)
            ∧ result = .error failure)
          ∨ ∃ written changed,
            buildFiles schemas root output paths between = (.ok (written, changed), after)
            ∧ result = (Manifest.absolute after.files output).map fun output =>
                { output, written, changed }) := by
  rw [build] at h
  split at h
  · next e tested =>
      cases h
      exact .inl ⟨_, rfl, .inl (by rw [tested]; rintro ⟨⟩), .inl rfl⟩
  · next tested =>
      cases h
      exact .inl ⟨_, rfl, .inl (by rw [tested]; rintro ⟨⟩), .inl rfl⟩
  · next tested =>
      split at h
      · next cause between run =>
          cases h
          exact .inl ⟨_, rfl, .inr (.inl ⟨cause, by rw [run]⟩), .inr (by rw [run])⟩
      · next schemas between run =>
          split at h
          · next e listed =>
              cases h
              exact .inl ⟨_, rfl, .inr (.inr ⟨e, by rw [run]; exact listed⟩), .inr (by rw [run])⟩
          · next paths listed =>
              refine .inr ⟨schemas, between, paths, tested, run, listed, ?_⟩
              split at h
              · next failure last building =>
                  cases h
                  exact .inl ⟨failure, building, rfl⟩
              · next written changed last building =>
                  split at h
                  · next failure absolute =>
                      cases h
                      exact .inr ⟨written, changed, building, by rw [absolute]; rfl⟩
                  · next place absolute =>
                      cases h
                      exact .inr ⟨written, changed, building, by rw [absolute]; rfl⟩

/-! ## Listings -/

/-- Before anything is built, the package holds the files that it held. -/
lemma Leaves.item?_source (separate : IsSeparate store before root output) {now : FileSystem}
    (leaves : Leaves store root output registered before [] now) {place : Location}
    (below : before.destination root <+: place) (content : Octets) :
    now.item? place = some (.file content) ↔ before.item? place = some (.file content) :=
  leaves.others place (fun cache => separate.cache place cache below) (by simp) content

/-- The fields files found once the schemas are known are those that the package had before. -/
lemma Leaves.listing (proper : before.IsProper) (plain : root.IsPlain)
    (separate : IsSeparate store before root output) {now : FileSystem}
    (leaves : Leaves store root output registered before [] now) (listable : now.IsListable)
    (there : before.isDirectory? root = .ok true) {paths : List Path}
    (h : fieldsFiles now root = .ok paths) : IsListing before root paths := by
  have same_root := destination_congr leaves.keeps.here root
  have found := isDirectory?_ok there
  have directory := leaves.keeps.directories _ (isDirectoryAt_iff.mpr (item?_of_find found).2)
  have search : IsSearchable now root := by
    refine ⟨leaves.tree, listable, plain,
      leaves.keeps.find found (isDirectoryAt_iff.mp directory), ?_⟩
    intro place content below file name mem
    rw [same_root] at below
    exact (proper.names place _ ((leaves.item?_source separate below content).mp file) name mem).2.2
  rcases fieldsFiles_ok search h with ⟨ordered, complete⟩
  refine ⟨ordered, fun path => (complete path).trans ?_⟩
  have files : ∀ content, now.item? (now.destination root ++ path.segments) = some (.file content)
      ↔ before.item? (before.destination root ++ path.segments) = some (.file content) := by
    rw [same_root]
    exact leaves.item?_source separate (List.prefix_append _ _)
  constructor
  · rintro ⟨relative, pattern, content, there⟩
    exact ⟨relative, pattern, content, (files content).mp there⟩
  · rintro ⟨relative, pattern, content, there⟩
    exact ⟨relative, pattern, content, (files content).mpr there⟩

/-! ## The command for one file -/

/-- The text of the path to the manifest of a package, if it has one. -/
def manifestText? (files : FileSystem) (root : Path) : Option Text :=
  match Manifest.find files root with
  | .ok (some manifest) => some manifest.path.text
  | _ => none

/-- The manifest of a package is where packages keep theirs. -/
lemma find_manifest {files : FileSystem} {manifest : Manifest}
    (found : Manifest.find files root = .ok (some manifest)) :
    manifest.path = root.join Manifest.usualPath
      ∧ Manifest.load files (root.join Manifest.usualPath) = .ok manifest := by
  rw [Manifest.find] at found
  split at found
  · cases found
  · cases found
  · rcases map_eq_ok.mp found with ⟨other, loaded, same⟩
    cases same
    refine ⟨?_, loaded⟩
    rw [Manifest.load] at loaded
    split at loaded
    · cases loaded
    · cases loaded
    · split at loaded
      · cases loaded
      · rw [Manifest.ofOctets] at loaded
        split at loaded
        · cases loaded
        · split at loaded
          · cases loaded
          · cases loaded
          · split at loaded
            · cases loaded
            · cases loaded
              rfl

lemma isWritten_join {path : Path} (written : root.IsWritten) (relative : path.root = [])
    (steps : ∀ segment ∈ path.segments, Path.isStep segment ∧ ('/' : CodePoint) ∉ segment) :
    (root.join path).IsWritten := by
  rcases path with ⟨start, segments⟩
  rw [show start = [] from relative]
  refine ⟨written.root, fun segment mem => ?_⟩
  rcases List.mem_append.mp (show segment ∈ root.segments ++ segments from mem) with mem | mem
  · exact written.segments segment mem
  · exact steps segment mem

/-- The manifest of a package, given to the command for one file, brings the same schemas. -/
lemma registryOf_run (written : root.IsWritten) {manifest : Option Manifest}
    (found : Manifest.find world.files root = .ok manifest) :
    (CommandLine.registryOf store server (manifestText? world.files root)).run.run world
      = (registry store server root).run.run world := by
  rw [registry_run, manifestText?, found]
  cases manifest with
  | none => rfl
  | some manifest =>
      rcases find_manifest found with ⟨path, loaded⟩
      have read_back : Path.ofText manifest.path.text = root.join Manifest.usualPath := by
        rw [path]
        refine Path.ofText_text (isWritten_join written rfl ?_)
        decide
      dsimp only
      rw [CommandLine.registryOf_some, read_back, loaded]

/-! ## Builds -/

/-- The command for one file gives the text that a build writes for it. -/
lemma injectCommand_eq (proper : world.files.IsProper) (written : root.IsWritten)
    (plain : root.IsPlain) (separate : IsSeparate store world.files root output)
    {schemas : Option Registry} {between : World σ}
    (run : (registry store server root).run.run world = (.ok schemas, between))
    (leaves : Leaves store root output schemas world.files [] between.files) {path : Path}
    (source : IsFieldsFile world.files root path) {injected : Injected} {text : String}
    (injected_eq : injectFile world.files schemas (root.join path) = .ok injected)
    (text_eq : injected.text = .ok text) :
    ((CommandLine.injectCommand store server (root.join path).text
      (manifestText? world.files root) none).run.run world).1 = .ok (text : Text) := by
  have found : ∃ manifest, Manifest.find world.files root = .ok manifest := by
    rw [registry_run] at run
    cases found : Manifest.find world.files root with
    | error failure =>
        rw [found] at run
        cases run
    | ok manifest => exact ⟨manifest, rfl⟩
  rcases found with ⟨manifest, found⟩
  have steps : ∀ segment ∈ path.segments, Path.isStep segment ∧ ('/' : CodePoint) ∉ segment := by
    rcases source.file with ⟨content, there⟩
    intro segment mem
    rcases proper.names _ _ there segment (List.mem_append_right _ mem) with ⟨nonempty, no_slash, -⟩
    have name := (source.listed proper segment mem).name
    exact ⟨by simp [Path.isStep, nonempty, name.1], no_slash⟩
  have read_back := Path.ofText_text (isWritten_join written source.relative steps)
  have same := leaves.injects proper plain separate (by simp) source (by simp) schemas
  rw [CommandLine.injectCommand_steps, Action.run_bind, CommandLine.rendering_run,
    registryOf_run written found, run]
  dsimp only
  rw [read_back, same, injected_eq, ok_bind, text_eq]
  rfl

/-- The files that a build has written are where the fields files are seen from the output
directory, and hold what the command for one file gives for each. -/
structure Builds (store : Store) (server : Server σ) (root output : Path)
    (schemas : Option Registry) (world : World σ) (paths : List Path) (built : Build)
    (after : FileSystem) : Prop where
  written : built.written = paths.map output.join
  changed : built.changed = (paths.filter fun path =>
    changes world.files schemas (root.join path)).map output.join
  leaves : Leaves store root output schemas world.files paths after
  texts : ∀ path ∈ paths, ∃ text : String,
    ((CommandLine.injectCommand store server (root.join path).text
      (manifestText? world.files root) none).run.run world).1 = .ok (text : Text)
    ∧ after.read (output.join path) = .ok (Utf8.encode text)

/-- **A build is the injection of its files one by one.** -/
theorem build_files (proper : world.files.IsProper) (apart : server.IsApart)
    (store_no_dot : ("." : Text) ∉ store.root.segments) (direct : root.IsDirect)
    (output_direct : output.IsDirect) (separate : IsSeparate store world.files root output)
    {result : Except Failure Build}
    (h : build store server root output world = (result, after)) :
    (∀ built, result = .ok built → ∃ schemas paths,
        ((registry store server root).run.run world).1 = .ok schemas
        ∧ IsListing world.files root paths
        ∧ Builds store server root output schemas world paths built after.files)
      ∧ ∀ failure, result = .error failure →
        (IsUnstarted store server root world
          ∧ Leaves store root output none world.files [] after.files)
        ∨ ∃ schemas paths built, ((registry store server root).run.run world).1 = .ok schemas
          ∧ IsListing world.files root paths
          ∧ Leaves store root output schemas world.files built after.files
          ∧ (built = paths ∧ Manifest.absolute after.files output = .error failure
            ∨ ∃ path further cause, paths = built ++ path :: further
              ∧ failure = fileFailure (root.join path) cause
              ∧ FailsWith world.files schemas (root.join path) cause) := by
  have plain := direct.isPlain
  rcases build_cases h with ⟨failure, rfl, unstarted, same | same⟩ |
    ⟨schemas, between, paths, there, run, listed, building⟩
  · refine ⟨(fun _ no => nomatch no), fun other _ => .inl ⟨unstarted, ?_⟩⟩
    rw [same]
    exact ⟨proper.tree, (Extends.refl _).keeps, by simp, fun _ _ _ _ => Iff.rfl⟩
  · refine ⟨(fun _ no => nomatch no), fun other _ => .inl ⟨unstarted, ?_⟩⟩
    rw [same]
    exact (registry_leaves proper apart store_no_dot (Prod.eta _).symm).2
  · rcases @registry_leaves _ _ _ root output schemas _ _ proper apart store_no_dot _ run with
      ⟨listable, leaves⟩
    have listing := leaves.listing proper plain separate listable there listed
    have sources : ∀ path ∈ [] ++ paths, IsFieldsFile world.files root path := fun path mem =>
      (listing.complete path).mp mem
    have run_files : ∀ {outcome},
        buildFiles schemas root output paths between = (outcome, after) → _ :=
      leaves.run proper plain output_direct.isPlain separate sources listing.nodup
    have known : ((registry store server root).run.run world).1 = .ok schemas := by rw [run]
    rcases building with ⟨failure, building, rfl⟩ | ⟨written, changed, building, rfl⟩
    · refine ⟨(fun _ no => nomatch no), fun other same => .inr ?_⟩
      cases same
      rcases run_files building with
        ⟨no, -⟩ | ⟨built, path, further, cause, paths_eq, failed, fails, left⟩
      · cases no
      · exact ⟨schemas, paths, built, known, listing, left,
          .inr ⟨path, further, cause, paths_eq, Except.error.inj failed, fails⟩⟩
    · rcases run_files building with ⟨done, left⟩ | ⟨_, _, _, _, -, no, -⟩
      · cases done
        rw [List.nil_append] at left
        rcases absolute : Manifest.absolute after.files output with failure | place
        · refine ⟨(fun _ no => nomatch no), fun other same => .inr ?_⟩
          cases same
          exact ⟨schemas, paths, paths, known, listing, left, .inl ⟨rfl, rfl⟩⟩
        · refine ⟨fun built same => ?_, (fun _ no => nomatch no)⟩
          cases same
          refine ⟨schemas, paths, known, listing, rfl, rfl, left, fun path mem => ?_⟩
          rcases left.built path mem with ⟨injected, text, injected_eq, text_eq, read⟩
          have source := (listing.complete path).mp mem
          exact ⟨text, injectCommand_eq proper direct.written plain separate run leaves source
            injected_eq text_eq, read⟩
      · cases no

/-! ## Examples -/

/-- A server that sends a schema with one field for every address. -/
def schemaServer : Server Unit := fun _ world =>
  (.response 200 (Utf8.encode "ip:\n  name: ip\n  type: ip\n"), world)

/-- A package with a manifest, a field of its own, and a data stream with an external field. -/
def smallPackage : World Unit where
  memory := ()
  files.items := [(["pkg"], .directory), (["pkg", "_dev"], .directory),
    (["pkg", "_dev", "build"], .directory),
    (["pkg", "_dev", "build", "build.yml"],
      .file (Utf8.encode "dependencies:\n  ecs:\n    reference: git@v8\n")),
    (["pkg", "fields"], .directory),
    (["pkg", "fields", "base.yml"], .file (Utf8.encode "- name: a\n")),
    (["pkg", "data_stream"], .directory), (["pkg", "data_stream", "log"], .directory),
    (["pkg", "data_stream", "log", "fields"], .directory),
    (["pkg", "data_stream", "log", "fields", "x.yml"],
      .file (Utf8.encode "- name: ip\n  external: ecs\n"))]

def smallRoot : Path := ⟨[], ["pkg"]⟩

def smallOutput : Path := ⟨[], ["out"]⟩

def smallFiles : List Path :=
  [⟨[], ["data_stream", "log", "fields", "x.yml"]⟩, ⟨[], ["fields", "base.yml"]⟩]

lemma smallPackage_proper : smallPackage.files.IsProper :=
  isProper_of_entries (by decide) (by decide) (by decide +kernel)

lemma smallPackage_separate :
    IsSeparate Store.smallStore smallPackage.files smallRoot smallOutput := by
  constructor
  · intro path other source other_source _ same
    rw [source.place_eq smallPackage_proper, other_source.place_eq smallPackage_proper] at same
    have first : ("out" : Text) = "pkg" := (List.cons.inj same).1
    exact absurd first (by decide)
  · rintro place ⟨manifest, version, found, named, rfl⟩ below
    have manifest_eq : Manifest.find smallPackage.files smallRoot
        = .ok (some ⟨⟨[], ["pkg", "_dev", "build", "build.yml"]⟩, "git@v8"⟩) := by decide +kernel
    cases manifest_eq.symm.trans found
    have version_eq : gitReference "git@v8" = .ok "v8" := rfl
    cases version_eq.symm.trans named
    exact absurd below (by decide)

/-- The two files are found in this order, whatever else is in the file system. -/
lemma fieldsFiles_small {files : FileSystem}
    (own : fieldsFilesIn files smallRoot ⟨[], ["fields"]⟩ = .ok [⟨[], ["fields", "base.yml"]⟩])
    (found : streams files smallRoot = .ok [⟨[], ["data_stream", "log"]⟩])
    (ofStream : fieldsFilesIn files smallRoot ⟨[], ["data_stream", "log", "fields"]⟩
      = .ok [⟨[], ["data_stream", "log", "fields", "x.yml"]⟩]) :
    fieldsFiles files smallRoot = .ok smallFiles := by
  have join : (⟨[], ["data_stream", "log"]⟩ : Path).join ⟨[], ["fields"]⟩
      = ⟨[], ["data_stream", "log", "fields"]⟩ := rfl
  rw [fieldsFiles, own, ok_bind, found, ok_bind, List.mapM_cons, join, ofStream, List.mapM_nil]
  cbv

/-- The sorting of the files is left out of the evaluation, which cannot follow it. -/
lemma build_small : ∃ output after,
    build Store.smallStore schemaServer smallRoot smallOutput smallPackage
      = (.ok ⟨output, smallFiles.map smallOutput.join,
          [⟨[], ["out", "data_stream", "log", "fields", "x.yml"]⟩]⟩, after) := by
  have pieces : let run := (registry Store.smallStore schemaServer smallRoot).run.run smallPackage
      run.1.toOption.isSome
      ∧ fieldsFilesIn run.2.files smallRoot ⟨[], ["fields"]⟩
        = .ok [⟨[], ["fields", "base.yml"]⟩]
      ∧ streams run.2.files smallRoot = .ok [⟨[], ["data_stream", "log"]⟩]
      ∧ fieldsFilesIn run.2.files smallRoot ⟨[], ["data_stream", "log", "fields"]⟩
        = .ok [⟨[], ["data_stream", "log", "fields", "x.yml"]⟩]
      ∧ (buildFiles (run.1.toOption.getD none) smallRoot smallOutput smallFiles
          run.2).1.toOption = some (smallFiles.map smallOutput.join,
            [⟨[], ["out", "data_stream", "log", "fields", "x.yml"]⟩]) := by
    decide +kernel
  have there : smallPackage.files.isDirectory? smallRoot = .ok true := by decide +kernel
  rcases run : (registry Store.smallStore schemaServer smallRoot).run.run smallPackage with
    ⟨cause | schemas, between⟩
  · rw [run] at pieces
    cases pieces.1
  · rw [run] at pieces
    rcases pieces with ⟨-, own, found, ofStream, building⟩
    have listed := fieldsFiles_small own found ofStream
    dsimp only [Except.toOption, Option.getD_some] at building
    rcases building_eq : buildFiles schemas smallRoot smallOutput smallFiles between with
      ⟨failure | ⟨written, changed⟩, after⟩
    · rw [building_eq] at building
      cases building
    · rw [building_eq] at building
      cases building
      refine ⟨after.files.resolve smallOutput, after, ?_⟩
      rw [build, there]
      dsimp only
      rw [run]
      dsimp only
      rw [listed]
      dsimp only
      rw [building_eq]
      rfl

/-- Both fields files of a package are written, one of them with an import. -/
theorem build_files_small :
    ∃ built after schemas paths,
      build Store.smallStore schemaServer smallRoot smallOutput smallPackage = (.ok built, after)
      ∧ built.written = smallFiles.map smallOutput.join
      ∧ built.changed = [⟨[], ["out", "data_stream", "log", "fields", "x.yml"]⟩]
      ∧ IsListing smallPackage.files smallRoot paths
      ∧ Builds Store.smallStore schemaServer smallRoot smallOutput schemas smallPackage paths built
        after.files := by
  rcases build_small with ⟨output, after, run⟩
  have direct : smallRoot.IsDirect := ⟨Path.isWritten_ofText "pkg", by decide⟩
  have output_direct : smallOutput.IsDirect := ⟨Path.isWritten_ofText "out", by decide⟩
  rcases (build_files smallPackage_proper (fun _ _ => ⟨rfl, rfl⟩) (by decide) direct output_direct
    smallPackage_separate run).1 _ rfl with ⟨schemas, paths, -, listing, builds⟩
  exact ⟨_, after, schemas, paths, run, rfl, rfl, listing, builds⟩

end ExternalFields.Package
