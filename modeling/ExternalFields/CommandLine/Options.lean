import ExternalFields.Failure

/-!
# Command-line options

Options are words that start with a dash. A value follows its option as the next word or after an
equals sign; short options can share a word; two dashes alone end the options.

* **`OptionSpec`**: what an option is
* **`Arguments.ofWords`**: the options among words, and the words that are none
* **`UsageError`**: what is wrong with a command line
-/

namespace ExternalFields.CommandLine

/-- An option, by its names. -/
structure OptionSpec where
  names : List Text
  takesValue : Bool := true
  required : Bool := false
  /-- Whether the value names a directory, so that it must not name a file. -/
  directory : Bool := false
  deriving Repr, Inhabited

/-- The name that an option is known by: its last one. -/
def OptionSpec.name (spec : OptionSpec) : Text :=
  spec.names.getLast?.getD ""

/-- What is wrong with a command line. -/
inductive UsageError where
  | missingOption (name : Text)
  | noSuchOption (name : Text)
  | noSuchCommand (name : Text)
  | missingCommand
  | extraArguments (words : List Text)
  | valueMissing (name : Text)
  | valueUnexpected (name : Text)
  /-- The value of an option names a file where there should be a directory. -/
  | notDirectory (name value : Text)
  deriving DecidableEq, Repr

namespace UsageError

/-- The wording of an error. -/
def message : UsageError → Text
  | .missingOption name => "Missing option '" ++ name ++ "'."
  | .noSuchOption name => "No such option: " ++ name
  | .noSuchCommand name => "No such command " ++ Text.quote name ++ "."
  | .missingCommand => "Missing command."
  | .extraArguments [word] => "Got unexpected extra argument (" ++ word ++ ")"
  | .extraArguments words =>
    "Got unexpected extra arguments (" ++ List.intercalate " " words ++ ")"
  | .valueMissing name => "Option " ++ Text.quote name ++ " requires an argument."
  | .valueUnexpected name => "Option " ++ Text.quote name ++ " does not take a value."
  | .notDirectory name value =>
    "Invalid value for '" ++ name ++ "': Directory " ++ Text.quote (FileName.shown value)
      ++ " is a file."

/-- Whether an error is shown with the usage of the command: one about the value of an option that
is still being read is not. -/
def showsUsage : UsageError → Bool
  | .valueMissing _ | .valueUnexpected _ => false
  | _ => true

end UsageError

/-- The options given, in order, each with its value, and the other words. -/
structure Arguments where
  given : List (OptionSpec × Text) := []
  words : List Text := []
  deriving Repr, Inhabited

namespace Arguments

/-- Puts an option before the others. -/
def adding (arguments : Arguments) (spec : OptionSpec) (value : Text) : Arguments :=
  { arguments with given := (spec, value) :: arguments.given }

/-- The option of a name. -/
def spec? (specs : List OptionSpec) (name : Text) : Option OptionSpec :=
  specs.find? (·.names.contains name)

/-- The part of a word before its first equals sign, and the part after it. -/
def splitValue (word : Text) : Text × Option Text :=
  let name := word.takeWhile fun c : CodePoint => c != '='
  match word.drop name.length with
  | [] => (name, none)
  | _ :: value => (name, some value)

/-- The short options that share a word. None of them takes a value. -/
def shortOptions (specs : List OptionSpec) : Text → Except UsageError (List OptionSpec)
  | [] => .ok []
  | c :: rest =>
    let name : Text := ['-', c]
    match spec? specs name with
    | none => .error (.noSuchOption name)
    | some spec => (spec :: ·) <$> shortOptions specs rest

/-- Whether a word is an option. -/
def isOption (word : Text) : Bool :=
  word.startsWith "-" && word.length > 1

/-- The options among words. If the options are not `scattered`, the first word that is none ends
them. -/
def ofWords (specs : List OptionSpec) (scattered : Bool) :
    List Text → Except UsageError Arguments
  | [] => .ok {}
  | word :: rest =>
    if word = "--" then .ok { words := rest }
    else if !isOption word then
      if scattered then
        (ofWords specs scattered rest).map fun arguments =>
          { arguments with words := word :: arguments.words }
      else .ok { words := word :: rest }
    else
      let (name, value?) := splitValue word
      match if name.startsWith "--" then spec? specs name else none, value?, rest with
      | some spec, some value, rest =>
        if spec.takesValue then (·.adding spec value) <$> ofWords specs scattered rest
        else .error (.valueUnexpected name)
      | some spec, none, next :: others =>
        if spec.takesValue then (·.adding spec next) <$> ofWords specs scattered others
        else (·.adding spec "") <$> ofWords specs scattered (next :: others)
      | some spec, none, [] =>
        if spec.takesValue then .error (.valueMissing name)
        else .ok ({ : Arguments }.adding spec "")
      | none, _, rest =>
        if word.startsWith "--" then .error (.noSuchOption name)
        else do
          let short ← shortOptions specs (word.drop 1)
          let arguments ← ofWords specs scattered rest
          return short.foldr (fun spec arguments => arguments.adding spec "") arguments

/-- The value of an option: the last one given counts. -/
def value? (arguments : Arguments) (name : Text) : Option Text :=
  (arguments.given.reverse.find? (·.1.names.contains name)).map Prod.snd

/-- The options given, each one once, in the order of their first places. -/
def order (arguments : Arguments) : List OptionSpec :=
  arguments.given.foldl (fun specs (spec, _) =>
    if specs.any (·.name == spec.name) then specs else specs ++ [spec]) []

end Arguments

/-! ## Values -/

/-- Why a command line is not carried out: it is wrong, or a path in it cannot be looked at. -/
inductive Stop where
  | usage (e : UsageError)
  | failure (e : Failure)
  deriving DecidableEq, Repr

/-- Whether a written path names a file as it stands: a slash at its end asks for a directory. -/
def namesFile (files : FileSystem) (value : Text) : Bool :=
  let last := (Path.splitSlashes value).getLast?.getD []
  match files.find (Path.ofText value) with
  | .ok (.file _) => Path.isStep last
  | _ => false

/-- Checks the value of an option. All values are paths. -/
def checkValue (files : FileSystem) (spec : OptionSpec) (value : Text) : Except Stop Unit :=
  let path := Path.ofText value
  if !path.isUsable then .error (.failure (.file ⟨.unusable, path⟩))
  else if spec.directory && namesFile files value then
    .error (.usage (.notDirectory spec.name value))
  else .ok ()

/-- Checks the values of the options given, in their order, and then of the others: an option may
have a `fallback`, and must be given if it is required and has none. -/
def checkValues (files : FileSystem) (specs : List OptionSpec)
    (fallback : OptionSpec → Option Text) (arguments : Arguments) : Except Stop Unit := do
  let given := arguments.order.filter (·.takesValue)
  for spec in given do
    checkValue files spec ((arguments.value? spec.name).getD "")
  for spec in specs do
    if spec.takesValue && !given.any (·.name == spec.name) then
      match fallback spec with
      | some value => checkValue files spec value
      | none => if spec.required then throw (.usage (.missingOption spec.name))

end ExternalFields.CommandLine
