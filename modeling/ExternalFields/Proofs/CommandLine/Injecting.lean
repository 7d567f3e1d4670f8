import ExternalFields.Proofs.CommandLine.Reports
import ExternalFields.Proofs.Yaml.Documents

/-!
# Injecting one file

The command for one file finds out the schemas, renders the injected document and delivers it, to
the output or to a file.  Only the first of these steps lets the cache change, and only the last one
writes anything else, at once and with all of the document (`Injects`).  So a run that fails has
changed no more than the cache has, and what is shown without an output file is what is written with
one.

The path of the file that was written is shown last.  If it cannot be printed, as it holds halves of
pairs, then the run fails although the file is written (`inject_unshown`).

* `Invokes`: the command lines that are carried out, and **`run_invokes`**: their runs.
* `IsOfCache`, **`registryOf_leaves`**: what finding out the schemas changes.
* `printed_document`: a document is printed as it is.
* `IsWritable`: the paths that a file can be written to.
* `Injects`, **`injects_run`**: the ways that the command can go.
* **`inject_all_or_nothing`**: its runs.
-/

namespace ExternalFields.CommandLine

open FileSystem Yaml

variable {σ : Type} {server : Server σ} {environment : Environment} {world after : World σ}
  {store : Store} {manifest output : Option Text} {fields : Text}

/-! ## Command lines -/

/-- The command lines that are carried out: the options are known, the values can be paths of files
and directories, no help is asked for, and no word is left over. -/
inductive Invokes (environment : Environment) (files : FileSystem) (words : List Text) :
    Bool → Command → Prop where
  | command {name : Text} {rest : List Text} {before arguments : Arguments} :
      Arguments.ofWords programOptions false words = .ok before →
      immediateOutcome before = none → before.words = name :: rest → name ∈ commandNames →
      Arguments.ofWords (optionsOf name) true rest = .ok arguments →
      arguments.value? "--help" = none →
      checkValues files (optionsOf name) environment.fallback arguments = .ok () →
      arguments.words = [] →
      Invokes environment files words (before.value? "--verbose").isSome
        (Command.ofArguments name environment.fallback arguments)

/-- **The run of a command line that is carried out** is the run of its command. -/
lemma run_invokes {words : List Text} {verbose : Bool} {command : Command}
    (invokes : Invokes environment world.files words verbose command) :
    run environment server words world = match command.run environment server world with
      | (.error failure, after) => (.error failure, after)
      | (.ok (.ok text), after) => ((printed text).map fun stdout =>
          { stdout, stderr := if verbose then logText world after else "" }, after)
      | (.ok (.error text), after) => ((printed (text ++ ("\n" : Text))).map fun told =>
          { exit := 1, stderr := (if verbose then logText world after else "") ++ told }, after) := by
  cases invokes with
  | @command name rest before arguments read going named known given no_help fit no_more =>
      have some_words : words.isEmpty = false := by
        cases words with
        | nil =>
            cases read
            cases named
        | cons word words => rfl
      rw [run, some_words, if_neg Bool.false_ne_true, read]
      dsimp only
      rw [going, named]
      dsimp only
      rw [if_pos (List.contains_iff_mem.mpr known), runCommand]
      dsimp only
      rw [given]
      dsimp only
      rw [no_help, Option.isSome_none, if_neg Bool.false_ne_true, fit]
      dsimp only
      rw [no_more, List.isEmpty_nil, Bool.not_true, if_neg Bool.false_ne_true]
      rcases (Command.ofArguments name environment.fallback arguments).run environment server world
        with ⟨failure | text | text, after⟩
      · rfl
      · rfl
      · rfl

/-! ## Schemas -/

/-- The cache of a command is at a path that was read. -/
lemma Environment.store_no_dot (environment : Environment) (cache : Option Text) :
    ("." : Text) ∉ (environment.store cache).root.segments := by
  rw [store]
  split
  · exact Path.ofText_no_dot _
  · rw [defaultCache, Path.join]
    split
    · decide
    · rw [List.mem_append]
      exact not_or.mpr ⟨Path.ofText_no_dot _, by decide⟩

/-- A place that the cache may change for the schemas of a manifest: the entry of the version that
the manifest names, and directories on the way to it. -/
def IsOfCache (store : Store) (manifest : Option Text) (before after : FileSystem)
    (place : Location) : Prop :=
  ∃ path found version, manifest = some path
    ∧ Manifest.load before (Path.ofText path) = .ok found
    ∧ gitReference found.reference = .ok version
    ∧ (Store.IsHoused (store.entry ecsSchema version) before after place
      ∨ place = before.destination (store.entry ecsSchema version)
        ∧ ∃ content, after.item? place = some (.file content))

/-- The world once the schemas of a manifest are found out. -/
def declared (store : Store) (server : Server σ) (manifest : Option Text) (world : World σ) :
    World σ :=
  ((registryOf store server manifest).run.run world).2

/-- **Finding out the schemas** leaves a tree in which everything is still there, and changes places
of the cache only. -/
lemma registryOf_leaves (apart : server.IsApart) (tree : world.files.IsTree)
    (no_dot : ("." : Text) ∉ store.root.segments) :
    (declared store server manifest world).files.IsTree
      ∧ world.files.Keeps (declared store server manifest world).files
      ∧ ∀ place, (declared store server manifest world).files.item? place
            = world.files.item? place
          ∨ IsOfCache store manifest world.files (declared store server manifest world).files
            place := by
  have nothing : world.files.IsTree ∧ world.files.Keeps world.files
      ∧ ∀ place, world.files.item? place = world.files.item? place
        ∨ IsOfCache store manifest world.files world.files place :=
    ⟨tree, (Extends.refl _).keeps, fun _ => .inl rfl⟩
  cases manifest with
  | none => exact nothing
  | some path =>
      rw [declared, registryOf_some]
      cases loaded : Manifest.load world.files (Path.ofText path) with
      | error failure => exact nothing
      | ok found =>
          dsimp only
          rw [Package.register_run]
          dsimp only
          cases run : (store.retrieve server ecsSchema found.reference).run.run world with
          | mk obtained last =>
              have retrieves := Store.retrieves_run run
              obtain ⟨files, -⟩ := Store.load_leaves run (Prod.eta _).symm
              obtain ⟨last_tree, keeps⟩ := retrieves.keeps apart tree no_dot
              rw [files]
              refine ⟨last_tree, keeps, fun place => ?_⟩
              refine (retrieves.places apart tree no_dot place).imp_right ?_
              rintro ⟨version, named, housed | ⟨entry, _, content, -, -, there⟩⟩
              · exact ⟨path, found, version, rfl, loaded, named, .inl housed⟩
              · exact ⟨path, found, version, rfl, loaded, named, .inr ⟨entry, content, there⟩⟩

/-! ## Documents -/

/-- A document is printed as it is: it holds no codes, and no halves of pairs. -/
lemma printed_document {document : String} (clean : MayHold document.toList) :
    printed (document : Text) = .ok document := by
  have whole : Text.hasHalf (document : Text) = false := by
    rw [Text.hasHalf, List.any_eq_false]
    rintro c mem
    obtain ⟨char, -, rfl⟩ := List.mem_map.mp mem
    simp [FileName.isHalf_ofChar]
  have no_code : Text.escapeMark ∉ (document : Text) := by
    intro mem
    obtain ⟨char, char_mem, same⟩ := List.mem_map.mp mem
    have values : (CodePoint.ofChar char).val = Text.escapeMark.val := congrArg Fin.val same
    have number : char.toNat = '\x1B'.toNat := values
    have allowed := clean char char_mem
    rw [Char.toNat_inj.mp number] at allowed
    cases allowed
  rw [printed_whole whole, Text.dropCodes_eq_self no_code]

/-- **Rendering** changes what finding out the schemas changes, and gives what a document may
hold. -/
lemma rendering_leaves {result : Except Failure String}
    (h : (rendering store server fields manifest).run.run world = (result, after)) :
    after = declared store server manifest world
      ∧ ∀ document, result = .ok document → MayHold document.toList := by
  rw [rendering_run] at h
  rw [declared]
  rcases run : (registryOf store server manifest).run.run world with
    ⟨failure | registered, between⟩
  · rw [run] at h
    cases h
    exact ⟨rfl, by rintro _ ⟨⟩⟩
  · rw [run] at h
    cases h
    refine ⟨rfl, fun document rendered => ?_⟩
    obtain ⟨injected, -, text⟩ := bind_eq_ok.mp rendered
    exact Injected.text_mayHold text

/-! ## The command -/

/-- A path that a file can be written to. -/
def IsWritable (files : FileSystem) (path : Path) : Prop :=
  ∃ content written, files.write path content = .ok written

/-- What is written has no part in whether it can be. -/
lemma IsWritable.write {files : FileSystem} {path : Path} (writable : IsWritable files path)
    (content : Octets) : ∃ written, files.write path content = .ok written := by
  obtain ⟨other, written, h⟩ := writable
  rw [FileSystem.write] at h ⊢
  split at h
  · split at h
    · cases h
    · next free => exact ⟨_, if_neg free⟩
  · cases h

/-- A file that can be read can be written. -/
lemma isWritable_of_read {files : FileSystem} {path : Path} {content : Octets}
    (no_dot : ("." : Text) ∉ path.segments) (read : files.read path = .ok content) :
    IsWritable files path := by
  obtain ⟨located, there⟩ := item?_of_find (read_eq_ok.mp read)
  have file : ¬ files.isDirectoryAt (files.destination path) := by
    rw [isDirectoryAt_iff, there]
    rintro ⟨⟩
  refine ⟨content, files.put (files.destination path) (.file content), ?_⟩
  rw [FileSystem.write, locateNew_of_locate no_dot located]
  exact if_neg file

/-- What the command comes to: it fails after the schemas are found out, since nothing is rendered
or the file cannot be written; or the document is shown, or written. -/
inductive Injects (store : Store) (server : Server σ) (fields : Text) (manifest : Option Text)
    (world : World σ) : Option Text → Except Failure Text → World σ → Prop where
  | unrendered {output : Option Text} {failure : Failure} :
      (rendering store server fields manifest).run.run world
          = (.error failure, declared store server manifest world) →
        Injects store server fields manifest world output (.error failure)
          (declared store server manifest world)
  | unwritten {target : Text} {failure : Failure} :
      ¬ IsWritable (declared store server manifest world).files (Path.ofText target) →
        Injects store server fields manifest world (some target) (.error failure)
          (declared store server manifest world)
  | shown {document : String} :
      (rendering store server fields manifest).run.run world
          = (.ok document, declared store server manifest world) → MayHold document.toList →
        Injects store server fields manifest world none (.ok document)
          (declared store server manifest world)
  | written {target : Text} {document : String} {files : FileSystem} :
      (rendering store server fields manifest).run.run world
          = (.ok document, declared store server manifest world) →
      (declared store server manifest world).files.write (Path.ofText target)
          (Utf8.encode document) = .ok files →
        Injects store server fields manifest world (some target)
          (.ok ((files.resolve (Path.ofText target)).text ++ ("\n" : Text)))
          ((declared store server manifest world).withFiles files)

/-- **The ways that the command can go.** -/
lemma injects_run {result : Except Failure Text}
    (h : (injectCommand store server fields manifest output).run.run world = (result, after)) :
    Injects store server fields manifest world output result after := by
  rw [injectCommand_steps, Action.run_bind] at h
  rcases run : (rendering store server fields manifest).run.run world with
    ⟨failure | document, between⟩
  · obtain ⟨rfl, -⟩ := rendering_leaves run
    rw [run] at h
    cases h
    exact .unrendered run
  · obtain ⟨rfl, clean⟩ := rendering_leaves run
    rw [run] at h
    cases output with
    | none =>
        cases h
        exact .shown run (clean document rfl)
    | some target =>
        dsimp only at h
        rw [deliver_run] at h
        cases writing : (declared store server manifest world).files.write (Path.ofText target)
            (Utf8.encode document) with
        | error e =>
            rw [writing] at h
            cases h
            refine .unwritten fun writable => ?_
            obtain ⟨written, same⟩ := writable.write (Utf8.encode document)
            cases same.symm.trans writing
        | ok files =>
            rw [writing] at h
            cases h
            exact .written run writing

/-- A run that ends with the exit code 0. -/
def Succeeds : Except Failure Outcome → Prop
  | .ok outcome => outcome.exit = 0
  | .error _ => False

/-- What a run shows on its output, if it ends with an exit code. -/
def shows : Except Failure Outcome → Text
  | .ok outcome => outcome.stdout
  | .error _ => []

section

variable {words : List Text} {verbose : Bool} {cache : Option Text}

/-- The run of a command that fails shows nothing on its output. -/
lemma run_of_failure {failure : Failure}
    (invokes : Invokes environment world.files words verbose (.inject fields manifest output cache))
    (failed : (injectCommand (environment.store cache) server fields manifest output).run.run world
      = (.error failure, after)) :
    ¬ Succeeds (run environment server words world).1
      ∧ shows (run environment server words world).1 = []
      ∧ (run environment server words world).2 = after := by
  rw [run_invokes invokes, Command.run, failed]
  dsimp only [settle]
  by_cases reported : failure.isReported
  · rw [if_pos reported]
    dsimp only
    rcases printed_cases (failure.message ++ ("\n" : Text)) with fails | told
    · rw [fails]
      exact ⟨not_false, rfl, rfl⟩
    · rw [told]
      exact ⟨Nat.one_ne_zero, rfl, rfl⟩
  · rw [if_neg reported]
    exact ⟨not_false, rfl, rfl⟩

/-- The run of a command that does not fail shows its text. -/
lemma run_of_text {text : Text}
    (invokes : Invokes environment world.files words verbose (.inject fields manifest output cache))
    (done : (injectCommand (environment.store cache) server fields manifest output).run.run world
      = (.ok text, after)) :
    run environment server words world = ((printed text).map fun stdout =>
      { stdout, stderr := if verbose then logText world after else "" }, after) := by
  rw [run_invokes invokes, Command.run, done]
  rfl

/-- What is shown of a path is printed, if the path holds no halves of pairs. -/
lemma printed_line {path : Text} (whole : path.hasHalf = false) :
    printed (path ++ ("\n" : Text)) = .ok (path ++ ("\n" : Text)).dropCodes := by
  refine printed_whole ?_
  rw [Text.hasHalf, List.any_append, ← Text.hasHalf, whole]
  decide

/-- A run that is to show the document does so exactly if there is one. -/
lemma run_direct
    (invokes : Invokes environment world.files words verbose (.inject fields manifest none cache)) :
    (∃ failure, ((rendering (environment.store cache) server fields manifest).run.run world).1
          = .error failure ∧ ¬ Succeeds (run environment server words world).1)
      ∨ ∃ document, ((rendering (environment.store cache) server fields manifest).run.run world).1
          = .ok document ∧ Succeeds (run environment server words world).1
        ∧ shows (run environment server words world).1 = document := by
  rcases ran : (injectCommand (environment.store cache) server fields manifest none).run.run world
    with ⟨result, after⟩
  cases injects_run ran with
  | @unrendered _ failure rendered =>
      exact .inl ⟨failure, congrArg Prod.fst rendered, (run_of_failure invokes ran).1⟩
  | @shown document rendered clean =>
      refine .inr ⟨document, congrArg Prod.fst rendered, ?_⟩
      rw [run_of_text invokes ran, printed_document clean]
      exact ⟨rfl, rfl⟩

/-- A document that is delivered: it is told itself, or it is what the output file holds, whose
absolute path is told then. -/
def IsDelivered (document : String) (before loaded after : FileSystem) (told : Text) :
    Option Text → Prop
  | none => told = document ∧ after = loaded
  | some target =>
    told = ((before.resolve (Path.ofText target)).text ++ ("\n" : Text)).dropCodes
      ∧ after.read (Path.ofText target) = .ok (Utf8.encode document)
      ∧ ∀ place, after.item? place
        = if place = before.destination (Path.ofText target) then
            some (.file (Utf8.encode document))
          else loaded.item? place

/-- **Injecting one file is all or nothing.**  Of the files, finding out the schemas changes no more
than the cache.  A run that does not end with the exit code 0 shows nothing on its output and
changes nothing else.  One that does delivers a document, and changes nothing else than the output
file; a run without an output file shows the same document.  If the output file can be written, both
runs end with the exit code 0, or neither does.  All this holds if the absolute path of the output
file, which is shown last, holds no halves of pairs. -/
theorem inject_all_or_nothing (apart : server.IsApart) (tree : world.files.IsTree)
    (invokes : Invokes environment world.files words verbose (.inject fields manifest output cache))
    (printable : ∀ target, output = some target →
      (world.files.resolve (Path.ofText target)).text.hasHalf = false) :
    let store := environment.store cache
    let loaded := (declared store server manifest world).files
    let ran := run environment server words world
    (∀ place, loaded.item? place = world.files.item? place
        ∨ IsOfCache store manifest world.files loaded place) ∧
    (¬ Succeeds ran.1 → shows ran.1 = [] ∧ ran.2.files = loaded) ∧
    (Succeeds ran.1 → ∃ document : String,
      IsDelivered document world.files loaded ran.2.files (shows ran.1) output ∧
      ∀ direct verbose',
        Invokes environment world.files direct verbose' (.inject fields manifest none cache) →
          Succeeds (run environment server direct world).1 ∧
          shows (run environment server direct world).1 = document) ∧
    ∀ direct verbose' target,
      Invokes environment world.files direct verbose' (.inject fields manifest none cache) →
      output = some target → IsWritable loaded (Path.ofText target) →
        (Succeeds (run environment server direct world).1 ↔ Succeeds ran.1) := by
  intro store loaded ran
  obtain ⟨loaded_tree, keeps, cache_only⟩ :=
    @registryOf_leaves _ server world store manifest apart tree (environment.store_no_dot cache)
  -- what a run without an output file shows, given what is rendered
  have direct_fails : ∀ {failure words verbose},
      ((rendering store server fields manifest).run.run world).1 = .error failure →
      Invokes environment world.files words verbose (.inject fields manifest none cache) →
        ¬ Succeeds (run environment server words world).1 := by
    intro failure words verbose rendered direct
    obtain ⟨_, -, fails⟩ | ⟨_, other, -⟩ := @run_direct _ server _ _ _ _ _ _ _ direct
    · exact fails
    · cases rendered.symm.trans other
  have direct_shows : ∀ {document words verbose},
      ((rendering store server fields manifest).run.run world).1 = .ok document →
      Invokes environment world.files words verbose (.inject fields manifest none cache) →
        Succeeds (run environment server words world).1
          ∧ shows (run environment server words world).1 = document := by
    intro document words verbose rendered direct
    obtain ⟨_, other, -⟩ | ⟨_, other, succeeds⟩ := @run_direct _ server _ _ _ _ _ _ _ direct
    · cases rendered.symm.trans other
    · cases rendered.symm.trans other
      exact succeeds
  refine ⟨cache_only, ?_⟩
  rcases injected : (injectCommand store server fields manifest output).run.run world with
    ⟨result, after⟩
  cases injects_run injected with
  | unrendered rendered =>
      obtain ⟨fails, silent, same⟩ := run_of_failure invokes injected
      have files : ran.2.files = loaded := congrArg World.files same
      refine ⟨fun _ => ⟨silent, files⟩, fun succeeds => absurd succeeds fails,
        fun direct verbose' target directly _ _ => ?_⟩
      exact iff_of_false (direct_fails (congrArg Prod.fst rendered) directly) fails
  | unwritten barred =>
      obtain ⟨fails, silent, same⟩ := run_of_failure invokes injected
      have files : ran.2.files = loaded := congrArg World.files same
      refine ⟨fun _ => ⟨silent, files⟩, fun succeeds => absurd succeeds fails, ?_⟩
      rintro direct verbose' target directly ⟨⟩ writable
      exact absurd writable barred
  | @shown document rendered clean =>
      have told : ran = _ := run_of_text invokes injected
      rw [printed_document clean] at told
      have succeeds : Succeeds ran.1 := by
        rw [told]
        rfl
      refine ⟨fun fails => absurd succeeds fails, fun _ => ⟨document, ?_, ?_⟩, ?_⟩
      · rw [told]
        exact ⟨rfl, rfl⟩
      · exact fun direct verbose' directly =>
          direct_shows (congrArg Prod.fst rendered) directly
      · rintro direct verbose' target directly ⟨⟩
  | @written target document files rendered written =>
      have no_dot := Path.ofText_no_dot target
      obtain ⟨-, later, items⟩ := write_leaves loaded_tree no_dot written
      have path_eq := resolve_congr (later.here.trans keeps.here) (Path.ofText target)
      have told : ran = _ := run_of_text invokes injected
      rw [path_eq, printed_line (printable target rfl)] at told
      have succeeds : Succeeds ran.1 := by
        rw [told]
        rfl
      rw [destination_congr keeps.here] at items
      refine ⟨fun fails => absurd succeeds fails, fun _ => ⟨document, ?_, ?_⟩, ?_⟩
      · rw [told]
        exact ⟨rfl, read_of_write loaded_tree no_dot written, items⟩
      · exact fun direct verbose' directly =>
          direct_shows (congrArg Prod.fst rendered) directly
      · intro direct verbose' other directly _ _
        exact iff_of_true (direct_shows (congrArg Prod.fst rendered) directly).1 succeeds

end

/-! ## Examples -/

lemma silentServer_apart : silentServer.IsApart := fun _ _ => ⟨rfl, rfl⟩

/-- A fields file with more blanks than it needs. -/
def blankWorld : World Unit where
  files := { items := [(["f.yml"], .file (Utf8.encode "-   name: a\n"))] }
  memory := ()

lemma blankWorld_tree : blankWorld.files.IsTree :=
  (isProper_of_entries (by decide) (by decide) (by decide +kernel)).tree

/-- **A fields file can be replaced by its injection.**  The run shows the path, and the file holds
what a run without an output file shows. -/
theorem inject_in_place :
    let ran := run { home := "/h" } silentServer
      ["inject", "--fields", "f.yml", "--output", "f.yml"] blankWorld
    let direct := run { home := "/h" } silentServer ["inject", "--fields", "f.yml"] blankWorld
    Succeeds ran.1 ∧ shows ran.1 = "/f.yml\n" ∧ ∃ document : String,
      shows direct.1 = document ∧
        ran.2.files.read (Path.ofText "f.yml") = .ok (Utf8.encode document) := by
  intro ran direct
  have invokes : Invokes { home := "/h" } blankWorld.files
      ["inject", "--fields", "f.yml", "--output", "f.yml"] false
      (.inject "f.yml" none (some "f.yml") none) := by
    have command := @Invokes.command { home := "/h" } blankWorld.files
      ["inject", "--fields", "f.yml", "--output", "f.yml"] _ _ _ _ rfl rfl rfl
      (.tail _ (.head _)) rfl rfl rfl rfl
    exact command
  have directly : Invokes { home := "/h" } blankWorld.files ["inject", "--fields", "f.yml"] false
      (.inject "f.yml" none none none) := by
    have command := @Invokes.command { home := "/h" } blankWorld.files
      ["inject", "--fields", "f.yml"] _ _ _ _ rfl rfl rfl (.tail _ (.head _)) rfl rfl rfl rfl
    exact command
  have printable : ∀ target : Text, some ("f.yml" : Text) = some target →
      (blankWorld.files.resolve (Path.ofText target)).text.hasHalf = false := by
    rintro target ⟨⟩
    decide
  obtain ⟨-, -, delivers, agree⟩ :=
    inject_all_or_nothing silentServer_apart blankWorld_tree invokes printable
  have shown : direct.1 = .ok { stdout := "- name: a\n" } := by decide +kernel
  have direct_succeeds : Succeeds direct.1 := by
    rw [shown]
    rfl
  have writable : IsWritable blankWorld.files (Path.ofText "f.yml") :=
    @isWritable_of_read _ _ (Utf8.encode "-   name: a\n") (Path.ofText_no_dot _) (by decide +kernel)
  have succeeds : Succeeds ran.1 := (agree _ _ _ directly rfl writable).mp direct_succeeds
  obtain ⟨document, ⟨told, read, -⟩, same⟩ := delivers succeeds
  exact ⟨succeeds, told.trans (by decide +kernel), document, (same _ _ directly).2, read⟩

/-- **A path that cannot be shown.**  The file is written, and then its path cannot be printed, so
that the run fails. -/
theorem inject_unshown :
    let target : Text := [0xDCFF] ++ (".yml" : Text)
    let words : List Text := ["inject", "--fields", "f.yml", "--output", target]
    let ran := run { home := "/h" } silentServer words blankWorld
    Invokes { home := "/h" } blankWorld.files words false (.inject "f.yml" none (some target) none) ∧
      ran.1 = .error .unencodable ∧ ¬ Succeeds ran.1 ∧
      blankWorld.files.item? [target] = none ∧
      ran.2.files.item? [target] = some (.file (Utf8.encode "- name: a\n")) := by
  intro target words ran
  have invokes := @Invokes.command { home := "/h" } blankWorld.files words _ _ _ _ rfl rfl rfl
    (.tail _ (.head _)) rfl rfl rfl rfl
  have fails : ran.1 = .error .unencodable := by decide +kernel
  refine ⟨invokes, fails, ?_, by decide +kernel, by decide +kernel⟩
  rw [fails]
  exact not_false

end ExternalFields.CommandLine
