import ExternalFields.CommandLine.Command
import ExternalFields.Manifest
import ExternalFields.Package
import ExternalFields.Text.Terminal

/-!
# Running the program

A command line is read, carried out and answered with an exit code and two texts. A failure of the
input is told on the error output with the exit code 1, a wrong command line with the exit code 2.

* **`Environment`**: what the program takes from its surroundings
* **`Outcome`**: exit code and output
* **`Command.run`**: carrying out a command
* **`run`**: the whole program
-/

namespace ExternalFields.CommandLine

/-- The home directory, and the cache directory that the environment names. -/
structure Environment where
  home : Text
  cacheDirectory : Option Text := none
  deriving Repr, Inhabited

/-- Exit code and output. -/
structure Outcome where
  exit : Nat := 0
  stdout : Text := ""
  stderr : Text := ""
  deriving DecidableEq, Repr, Inhabited

/-! ## Commands -/

/-- The directory of the cache below a home directory. -/
def defaultCache (home : Path) : Path :=
  home.join ⟨"", [".fields-resolver", "cache", "fields"]⟩

/-- The value of an option that is not given. -/
def Environment.fallback (environment : Environment) (spec : OptionSpec) : Option Text :=
  if spec.name = cacheOption.name then environment.cacheDirectory.filter (!·.isEmpty) else none

/-- The store of a command. An empty name stands for the usual directory. -/
def Environment.store (environment : Environment) (cache : Option Text) : Store :=
  match cache.filter (!·.isEmpty) with
  | some directory => { root := Path.ofText directory }
  | none => { root := defaultCache (Path.ofText environment.home) }

variable {σ : Type}

/-- The schemas that a manifest declares, none if there is no manifest. -/
def registryOf (store : Store) (server : Server σ) (manifest : Option Text) :
    Action σ (Option Registry) := do
  match manifest with
  | none => return none
  | some path =>
    let manifest ← Action.ofExcept id (Manifest.load (← Action.files) (Path.ofText path))
    some <$> store.register server manifest.reference

/-- Injects a fields file. The result goes to a file, whose absolute path is shown, or is shown
itself. -/
def injectCommand (store : Store) (server : Server σ) (fields : Text)
    (manifest output : Option Text) : Action σ Text := do
  let registered ← registryOf store server manifest
  let injected ← Action.ofExcept id
    (injectFile (← Action.files) registered (Path.ofText fields))
  let text ← Action.ofExcept id injected.text
  match output with
  | none => return text
  | some output =>
    let path := Path.ofText output
    Action.write path (Utf8.encode text)
    return (← Action.ofExcept id (Manifest.absolute (← Action.files) path)).text ++ "\n"

/-- What a build has done. -/
def Build.summary (result : Build) : Text :=
  Text.ofNat result.written.length ++ " fields files written, " ++ Text.ofNat result.changed.length
    ++ " with external fields: " ++ result.output.text ++ "\n"

/-- The end of a command: failures that are `reported` come down to their wording, others stay. -/
def settle (reported : Failure → Bool) : Except Failure Text → Except Failure (Except Text Text)
  | .ok text => .ok (.ok text)
  | .error failure => if reported failure then .ok (.error failure.message) else .error failure

/-- Carries out a command: the text to be shown, or the text of an error of the input. Failures
that no operation expects are passed on. -/
def Command.run (environment : Environment) (server : Server σ) (command : Command)
    (world : World σ) : Except Failure (Except Text Text) × World σ :=
  match command with
  | .generateManifest output =>
    let (result, world) := (Manifest.scaffold (Path.ofText output)).run.run world
    (settle Failure.isReported (result.map fun path => path.text ++ "\n"), world)
  | .inject fields manifest output cache =>
    let (result, world) :=
      (injectCommand (environment.store cache) server fields manifest output).run.run world
    (settle Failure.isReported result, world)
  | .build root output cache =>
    let (result, world) :=
      Package.build (environment.store cache) server (Path.ofText root) (Path.ofText output)
        world
    (settle Failure.isOfPackage (result.map Build.summary), world)

/-! ## The program -/

/-- A text as it is printed: without terminal codes. Halves of pairs cannot be printed. -/
def printed (text : Text) : Except Failure Text :=
  let plain := text.dropCodes
  if plain.hasHalf then .error .unencodable else .ok plain

/-- How a wrong command line is answered. -/
def usageOutcome (usage path : Text) (e : UsageError) : Except Failure Outcome := do
  let hint : Text :=
    if e.showsUsage then usage ++ "\nTry '" ++ path ++ " -h' for help.\n\n" else ""
  return { exit := 2, stderr := ← printed (hint ++ "Error: " ++ e.message ++ "\n") }

/-- How a wrong command line before the command is answered. -/
def programOutcome (e : UsageError) : Except Failure Outcome :=
  usageOutcome programUsage programName e

/-- The lines logged since the world `before`. -/
def logText (before after : World σ) : Text :=
  (after.log.drop before.log.length).flatMap fun line =>
    "DEBUG " ++ line.source ++ ": " ++ line.text ++ "\n"

/-- Runs a command with the words after it. -/
def runCommand (environment : Environment) (server : Server σ) (verbose : Bool) (name : Text)
    (words : List Text) (world : World σ) : Except Failure Outcome × World σ :=
  let specs := optionsOf name
  let wrong := fun (e : UsageError) =>
    usageOutcome (commandUsage name) (programName ++ " " ++ name) e
  match Arguments.ofWords specs true words with
  | .error e => (wrong e, world)
  | .ok arguments =>
    if (arguments.value? "--help").isSome then (.ok { stdout := commandHelp name }, world)
    else
      match checkValues world.files specs environment.fallback arguments with
      | .error (.usage e) => (wrong e, world)
      | .error (.failure e) => (.error e, world)
      | .ok () =>
        if !arguments.words.isEmpty then (wrong (.extraArguments arguments.words), world)
        else
          let command := Command.ofArguments name environment.fallback arguments
          let (result, after) := command.run environment server world
          let log := if verbose then logText world after else ""
          match result with
          | .error failure => (.error failure, after)
          | .ok (.ok text) =>
            ((printed text).map fun stdout => { stdout, stderr := log }, after)
          | .ok (.error text) =>
            ((printed (text ++ "\n")).map fun told => { exit := 1, stderr := log ++ told }, after)

/-- The answer to the options before the command that end the program at once: the first of them
counts. -/
def immediateOutcome (arguments : Arguments) : Option Outcome :=
  let immediate := arguments.order.find? fun spec =>
    spec.name == versionOption.name || spec.name == helpOption.name
  immediate.map fun spec =>
    if spec.name == versionOption.name then
      { stdout := programName ++ ", version " ++ version ++ "\n" }
    else { stdout := programHelp }

/-- The answer to a word that names no command. One that looks like an option is taken for a
misplaced one. -/
def unknownCommand (name : Text) (words : List Text) : Except Failure Outcome :=
  let misplaced := if name.head?.all fun c => c.char.isAlphanum then .ok {}
    else Arguments.ofWords programOptions false words
  match misplaced with
  | .error e => programOutcome e
  | .ok arguments =>
    match immediateOutcome arguments with
    | some outcome => .ok outcome
    | none => programOutcome (.noSuchCommand name)

/-- Runs the program with the words of its command line. -/
def run (environment : Environment) (server : Server σ) (words : List Text) (world : World σ) :
    Except Failure Outcome × World σ :=
  if words.isEmpty then (.ok { exit := 2, stderr := programHelp }, world)
  else
    match Arguments.ofWords programOptions false words with
    | .error e => (programOutcome e, world)
    | .ok arguments =>
      match immediateOutcome arguments, arguments.words with
      | some outcome, _ => (.ok outcome, world)
      | none, [] => (programOutcome .missingCommand, world)
      | none, name :: rest =>
        if commandNames.contains name then
          let verbose := (arguments.value? "--verbose").isSome
          runCommand environment server verbose name rest world
        else (unknownCommand name (name :: rest), world)

end ExternalFields.CommandLine
