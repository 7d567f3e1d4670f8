import ExternalFields.Proofs.CommandLine.Failures
import ExternalFields.Proofs.CommandLine.Messages

/-!
# What a run tells

A run ends with an exit code.  If that is not zero, something is told on the error output; and if
there is no exit code at all, a failure has escaped that no operation expects.

* `Outcome.IsTold`: the outcomes that tell of what went wrong.
* `Arguments.words_subset`: the words that no option takes are words of the command line.
* **`Command.run_settles`**: what comes of a command.
* **`run_tells`**: what comes of a run, and of the builds of packages.
* `run_untold`: failures that are expected to be told, and escape.
-/

namespace ExternalFields.CommandLine

open Failure

variable {σ : Type} {server : Server σ} {environment : Environment} {world : World σ}
  {files : FileSystem}

/-- An outcome with one of the exit codes, which shows a message unless that is zero. -/
def Outcome.IsTold (outcome : Outcome) : Prop :=
  outcome.exit = 0 ∨ (outcome.exit = 1 ∨ outcome.exit = 2) ∧ Text.IsShown outcome.stderr

/-! ## Words and values -/

/-- Options add no words. -/
lemma Arguments.words_of_short (others : Arguments) (short : List OptionSpec) :
    (short.foldr (fun spec arguments => arguments.adding spec "") others).words
      = others.words := by
  induction short with
  | nil => rfl
  | cons spec short ih => exact ih

/-- The words that no option takes are words of the command line. -/
lemma Arguments.words_subset {specs : List OptionSpec} {scattered : Bool} {words : List Text}
    {arguments : Arguments} (h : ofWords specs scattered words = .ok arguments) :
    arguments.words ⊆ words := by
  fun_induction ofWords specs scattered words generalizing arguments with
  | case1 =>
      cases h
      exact List.Subset.refl _
  | case2 rest =>
      cases h
      exact List.subset_cons_self _ rest
  | case3 word rest _ _ _ ih =>
      obtain ⟨others, read, rfl⟩ := map_eq_ok.mp h
      exact List.cons_subset_cons word (@ih others read)
  | case4 =>
      cases h
      exact List.Subset.refl _
  | case5 word _ _ name spec value rest _ _ _ ih =>
      obtain ⟨others, read, rfl⟩ := map_eq_ok.mp h
      exact List.subset_cons_of_subset word (@ih others read)
  | case7 word _ _ name spec next rest _ _ _ ih =>
      obtain ⟨others, read, rfl⟩ := map_eq_ok.mp h
      exact List.subset_cons_of_subset word (List.subset_cons_of_subset next (@ih others read))
  | case8 word _ _ name spec next rest _ _ _ ih =>
      obtain ⟨others, read, rfl⟩ := map_eq_ok.mp h
      exact List.subset_cons_of_subset word (@ih others read)
  | case10 =>
      cases h
      exact List.nil_subset _
  | case12 word _ _ name value? _ rest _ _ ih =>
      simp only [bind_eq_ok, pure_eq_ok, Except.ok.injEq] at h
      obtain ⟨short, -, others, read, rfl⟩ := h
      rw [words_of_short]
      exact List.subset_cons_of_subset word (ih read)
  | case6 | case9 | case11 => cases h

/-- A command line that is not carried out is wrong, or a failure escapes. -/
def Stop.IsOrdinary (files : FileSystem) : Stop → Prop
  | .usage _ => True
  | .failure cause => cause.Escapes files

lemma checkValue_failsOnly (files : FileSystem) (spec : OptionSpec) (value : Text) :
    FailsOnly (Stop.IsOrdinary files) (checkValue files spec value) := by
  unfold checkValue
  dsimp only
  split
  · next unusable => exact .error (Escapes.unusable (by simpa using unusable))
  · split
    · exact .error trivial
    · exact .ok ()

/-- Values stop a command because they are wrong, or because no file can have them for a path. -/
lemma checkValues_failsOnly (files : FileSystem) (specs : List OptionSpec)
    (fallback : OptionSpec → Option Text) (arguments : Arguments) :
    FailsOnly (Stop.IsOrdinary files) (checkValues files specs fallback arguments) := by
  have value (spec : OptionSpec) (written : Text) :
      FailsOnly (Stop.IsOrdinary files) (do
        checkValue files spec written
        pure (ForInStep.yield PUnit.unit)) :=
    (checkValue_failsOnly files spec written).bind fun _ _ => .ok _
  unfold checkValues
  refine .bind (.forIn fun spec _ _ => value spec _) fun _ _ => ?_
  refine .bind (.forIn fun spec _ _ => ?_) fun _ _ => .ok _
  split
  · split
    · exact value spec _
    · split
      · exact .bind (.error trivial) fun _ _ => .ok _
      · exact .ok _
  · exact .ok _

/-! ## Commands -/

/-- The store of a command uses the usual template of addresses. -/
lemma Environment.store_addressed (environment : Environment) (cache : Option Text) :
    (environment.store cache).IsAddressed := by
  intro version
  rw [store]
  split
  · exact ⟨_, Store.url_usual _ version⟩
  · exact ⟨_, Store.url_usual _ version⟩

/-- The failures that escape a command. -/
def Command.Escapes (files : FileSystem) : Command → Failure → Prop
  | .build root _ _ => Package.Escapes files (Path.ofText root)
  | _ => Failure.Escapes files

/-- At the end of a command only what is not reported stays a failure. -/
lemma settle_failsOnly {reported : Failure → Bool} {escapes : Failure → Prop}
    {result : Except Failure Text}
    (sorted : FailsOnly (fun failure => reported failure ∨ escapes failure) result) :
    FailsOnly escapes (settle reported result) := by
  cases result with
  | ok text => exact .ok _
  | error failure =>
      rw [settle]
      split
      · exact .ok _
      · next untold => exact .error ((sorted failure rfl).resolve_left untold)

/-- What a command tells is the wording of a failure that it reports. -/
lemma settle_told {reported : Failure → Bool} {result : Except Failure Text} {text : Text}
    (told : settle reported result = .ok (.error text)) :
    ∃ failure, reported failure ∧ text = failure.message := by
  cases result with
  | ok _ => cases told
  | error failure =>
      rw [settle] at told
      split at told
      · next reported =>
          cases told
          exact ⟨failure, reported, rfl⟩
      · cases told

/-- **What comes of a command**: what it tells is the wording of a failure, and what it does not
tell escapes. -/
theorem Command.run_settles (calm : server.IsUninterrupted) (command : Command) :
    FailsOnly (command.Escapes world.files) (command.run environment server world).1
      ∧ ∀ text, (command.run environment server world).1 = .ok (.error text) →
        ∃ failure : Failure, (failure.isReported ∨ failure.isOfPackage)
          ∧ text = failure.message := by
  have addressed := environment.store_addressed
  cases command with
  | generateManifest output =>
      refine ⟨settle_failsOnly ((Manifest.scaffold_failsOnly _ _ world).map _),
        fun text told => ?_⟩
      obtain ⟨failure, reported, rfl⟩ := settle_told told
      exact ⟨failure, .inl reported, rfl⟩
  | inject fields manifest output cache =>
      refine ⟨settle_failsOnly (injectCommand_failsOnly (addressed cache) calm _ _ _ world),
        fun text told => ?_⟩
      obtain ⟨failure, reported, rfl⟩ := settle_told told
      exact ⟨failure, .inl reported, rfl⟩
  | build root output cache =>
      refine ⟨settle_failsOnly ((Package.build_failsOnly (addressed cache) calm _ _ world).map _),
        fun text told => ?_⟩
      obtain ⟨failure, reported, rfl⟩ := settle_told told
      exact ⟨failure, .inr reported, rfl⟩

/-! ## Runs -/

/-- What comes of a run: an outcome that tells of what went wrong, or a failure that escapes. -/
def Tells (escapes : Failure → Prop) : Except Failure Outcome → Prop
  | .ok outcome => outcome.IsTold
  | .error failure => escapes failure

/-- The failures that escape a run with some words: those of builds do only if one is asked for. -/
def EscapesRun (files : FileSystem) (words : List Text) (failure : Failure) : Prop :=
  failure.Escapes files ∨ ("build" : Text) ∈ words ∧ ∃ root, Package.Escapes files root failure

lemma usageOutcome_tells {words : List Text} (usage path : Text) (e : UsageError) :
    Tells (EscapesRun files words) (usageOutcome usage path e) := by
  rcases usageOutcome_cases usage path e with fails | ⟨stderr, told, shown⟩
  · rw [fails]
    exact .inl .unencodable
  · rw [told]
    exact .inr ⟨.inr rfl, shown⟩

lemma printed_tells {words : List Text} {text : Text} {outcome : Text → Outcome}
    (told : (outcome text.dropCodes).IsTold) :
    Tells (EscapesRun files words) ((printed text).map outcome) := by
  rcases printed_cases text with fails | shown
  · rw [fails]
    exact .inl .unencodable
  · rw [shown]
    exact told

lemma Command.escapes_ofArguments {name : Text} (known : name ∈ commandNames)
    {fallback : OptionSpec → Option Text} {arguments : Arguments} {failure : Failure}
    (escapes : (Command.ofArguments name fallback arguments).Escapes files failure) :
    failure.Escapes files ∨ name = "build" ∧ ∃ root, Package.Escapes files root failure := by
  simp only [commandNames, List.mem_cons, List.not_mem_nil, or_false] at known
  rcases known with rfl | rfl | rfl
  · exact .inl escapes
  · exact .inl escapes
  · exact .inr ⟨rfl, _, escapes⟩

lemma runCommand_tells (calm : server.IsUninterrupted) {words : List Text} {name : Text}
    (known : name ∈ commandNames) (named : name ∈ words) (verbose : Bool) (rest : List Text) :
    Tells (EscapesRun world.files words) (runCommand environment server verbose name rest world).1 := by
  have wrong (e : UsageError) : Tells (EscapesRun world.files words)
      (usageOutcome (commandUsage name) (programName ++ " " ++ name) e) :=
    usageOutcome_tells _ _ e
  unfold runCommand
  dsimp only
  split
  · exact wrong _
  · next arguments read =>
      split
      · exact .inl rfl
      · split
        · exact wrong _
        · next failure stopped =>
            exact .inl (checkValues_failsOnly _ _ _ _ _ stopped)
        · split
          · exact wrong _
          · have settled := @Command.run_settles _ server environment world calm
              (Command.ofArguments name environment.fallback arguments)
            generalize (Command.ofArguments name environment.fallback arguments).run environment
              server world = ran at settled ⊢
            rcases settled with ⟨escapes, tells⟩
            rcases ran with ⟨failure | text | text, after⟩
            · rcases Command.escapes_ofArguments known (escapes failure rfl) with
                escaped | ⟨rfl, escaped⟩
              · exact .inl escaped
              · exact .inr ⟨named, escaped⟩
            · rcases tells text rfl with ⟨failure, told, rfl⟩
              exact printed_tells (.inr ⟨.inl rfl, (message_shown told).after _⟩)
            · exact printed_tells (.inl rfl)

lemma immediateOutcome_exit {arguments : Arguments} {outcome : Outcome}
    (immediate : immediateOutcome arguments = some outcome) : outcome.exit = 0 := by
  rw [immediateOutcome, Option.map_eq_some_iff] at immediate
  rcases immediate with ⟨spec, -, rfl⟩
  split <;> rfl

lemma unknownCommand_tells {words : List Text} (name : Text) (rest : List Text) :
    Tells (EscapesRun files words) (unknownCommand name rest) := by
  unfold unknownCommand
  dsimp only
  split
  · exact usageOutcome_tells _ _ _
  · split
    · next immediate => exact .inl (immediateOutcome_exit immediate)
    · exact usageOutcome_tells _ _ _

lemma runWords_tells (calm : server.IsUninterrupted) (words : List Text) :
    Tells (EscapesRun world.files words) (run environment server words world).1 := by
  unfold run
  split
  · exact .inr ⟨.inr rfl, programHelp_shown⟩
  · split
    · exact usageOutcome_tells _ _ _
    · next arguments read =>
        split
        · next immediate => exact .inl (immediateOutcome_exit immediate)
        · exact usageOutcome_tells _ _ _
        · next name rest _ words_eq =>
            have named : name ∈ words := Arguments.words_subset read (by simp [words_eq])
            split
            · next known =>
                exact runCommand_tells calm (List.contains_iff_mem.mp known) named _ _
            · exact unknownCommand_tells name (name :: rest)

/-- **What comes of a run.**  With a server that is never interrupted, whatever the files, their
contents, the replies and the words are, a run ends with the exit code 0, or with 1 or 2 and
something to be seen on the error output; or a failure escapes that no operation expects. -/
theorem run_tells (calm : server.IsUninterrupted) (environment : Environment) (world : World σ) :
    (∀ words, Tells (EscapesRun world.files words) (run environment server words world).1)
      ∧ ∀ cache root output, FailsOnly (Package.IsOfBuild world.files root)
        (Package.build (environment.store cache) server root output world).1 :=
  ⟨fun words => runWords_tells calm words, fun cache root output =>
    Package.build_failsOnly (environment.store_addressed cache) calm root output world⟩

/-! ## Examples -/

/-- A server that brings no response. -/
def silentServer : Server Unit := fun _ world => (.noResponse, world)

lemma silentServer_uninterrupted : silentServer.IsUninterrupted := by
  intro url world failure same
  cases same

/-- Files that are no text, and a directory in the place of a manifest. -/
def oddWorld : World Unit where
  files := {
    items := [(["f.yml"], .file (Utf8.encode "- name: a\n")), (["m.yml"], .file [0xE9]),
      (["p"], .directory), (["p", "_dev"], .directory), (["p", "_dev", "build"], .directory),
      (["p", "_dev", "build", "build.yml"], .directory)] }
  memory := ()

/-- A fields file that is missing is told. -/
theorem run_tells_missing :
    silentServer.IsUninterrupted
      ∧ ∃ outcome, (run { home := "/h" } silentServer ["inject", "--fields", "g.yml"] oddWorld).1
          = .ok outcome
        ∧ outcome.exit = 1 ∧ outcome.IsTold := by
  have told := (run_tells silentServer_uninterrupted { home := "/h" } oddWorld).1
    ["inject", "--fields", "g.yml"]
  have missing : (run { home := "/h" } silentServer ["inject", "--fields", "g.yml"] oddWorld).1
      = .ok { exit := 1, stderr := "[Errno 2] No such file or directory: 'g.yml'\n" } := by
    decide +kernel
  rw [missing] at told
  exact ⟨silentServer_uninterrupted, _, missing, rfl, told⟩

/-- **What is not told.**  A manifest that is not text is no error of the input, though a fields
file of the same octets is; and a directory in the place of a manifest is none of a build. -/
theorem run_untold :
    silentServer.IsUninterrupted
      ∧ (run { home := "/h" } silentServer
          ["inject", "--fields", "f.yml", "--manifest", "m.yml"] oddWorld).1
        = .error (.encoding ⟨0, 1, 0xE9, .cut⟩)
      ∧ (run { home := "/h" } silentServer ["inject", "--fields", "m.yml"] oddWorld).1
        = .ok {
            exit := 1
            stderr := "Fields file m.yml is not valid UTF-8: 'utf-8' codec can't decode byte 0xe9 in "
              ++ "position 0: unexpected end of data\n" }
      ∧ (run { home := "/h" } silentServer
          ["build", "--package-root", "p", "--output-dir", "o"] oddWorld).1
        = .error (.file ⟨.isDirectory, ⟨[], ["p", "_dev", "build", "build.yml"]⟩⟩) := by
  refine ⟨silentServer_uninterrupted, ?_, ?_, ?_⟩
  · decide +kernel
  · decide +kernel
  · decide +kernel

end ExternalFields.CommandLine
