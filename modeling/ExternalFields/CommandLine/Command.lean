import ExternalFields.CommandLine.Options

/-!
# Commands

The three commands and their options.

* **`Command`**: a command with its arguments
* **`Command.ofArguments`**: the command that arguments ask for
-/

namespace ExternalFields.CommandLine

/-- What the program is asked to do. -/
inductive Command where
  /-- Writes a manifest to be filled in. -/
  | generateManifest (output : Text)
  /-- Injects one fields file, given the manifest of its package. -/
  | inject (fields : Text) (manifest output cache : Option Text)
  /-- Injects all fields files of a package. -/
  | build (root output : Text) (cache : Option Text)
  deriving DecidableEq, Repr

/-- The name of the program. -/
def programName : Text := "fields-resolver"

/-- The version of the program. -/
def version : Text := "0.1.0"

/-- The names of the commands. -/
def commandNames : List Text := ["generate-manifest", "inject", "build"]

/-! ## Options -/

/-- The option that asks for help. -/
def helpOption : OptionSpec := { names := ["-h", "--help"], takesValue := false }

/-- The option that asks for the version. -/
def versionOption : OptionSpec := { names := ["--version"], takesValue := false }

/-- The option that asks for the log. -/
def verboseOption : OptionSpec := { names := ["-v", "--verbose"], takesValue := false }

/-- The option that names the directory of the cache. -/
def cacheOption : OptionSpec := { names := ["--cache-dir"], directory := true }

/-- The options before the command. -/
def programOptions : List OptionSpec := [versionOption, verboseOption, helpOption]

/-- The options of a command, in order. -/
def optionsOf (command : Text) : List OptionSpec :=
  let own :=
    if command = "generate-manifest" then [{ names := ["--output"] }]
    else if command = "inject" then
      [{ names := ["--fields"], required := true }, { names := ["--manifest"] },
        { names := ["--output"] }, cacheOption]
    else
      [{ names := ["--package-root"], required := true, directory := true },
        { names := ["--output-dir"], required := true, directory := true }, cacheOption]
  own ++ [helpOption]

/-- Where a manifest is written if no other place is named. -/
def manifestDefault : Text := "_dev/build/build.yml"

/-- The command that arguments ask for. -/
def Command.ofArguments (name : Text) (fallback : OptionSpec → Option Text)
    (arguments : Arguments) : Command :=
  let cache := (arguments.value? "--cache-dir").or (fallback cacheOption)
  let value := fun (option : Text) => (arguments.value? option).getD ""
  if name = "generate-manifest" then
    .generateManifest ((arguments.value? "--output").getD manifestDefault)
  else if name = "inject" then
    .inject (value "--fields") (arguments.value? "--manifest") (arguments.value? "--output") cache
  else .build (value "--package-root") (value "--output-dir") cache

/-! ## Help -/

/-- The usage of the program. -/
def programUsage : Text := "Usage: " ++ programName ++ " [OPTIONS] COMMAND [ARGS]..."

/-- The usage of a command. -/
def commandUsage (name : Text) : Text := "Usage: " ++ programName ++ " " ++ name ++ " [OPTIONS]"

/-- A line that shows an option. -/
def optionLine (spec : OptionSpec) : Text :=
  let names : Text := List.intercalate ", " spec.names
  "  " ++ names ++ (if spec.takesValue then " PATH" else "") ++ "\n"

/-- Lines that show options. -/
def optionLines (specs : List OptionSpec) : Text :=
  specs.flatMap optionLine

/-- A line that shows a command. -/
def commandLine (name : Text) : Text := "  " ++ name ++ "\n"

/-- The help on the program. -/
def programHelp : Text :=
  programUsage ++ "\n\nOptions:\n" ++ optionLines programOptions ++ "\nCommands:\n"
    ++ commandNames.flatMap commandLine

/-- The help on a command. -/
def commandHelp (name : Text) : Text :=
  commandUsage name ++ "\n\nOptions:\n" ++ optionLines (optionsOf name)

end ExternalFields.CommandLine
