import ExternalFields.Field.Reading
import ExternalFields.Field.Rendering
import ExternalFields.Manifest
import ExternalFields.Schema.Store

/-!
# Building packages

The fields files of a package are injected one after the other, in the order of their paths, and
written to the same places below an output directory.

* **`loadFields`**: the fields of a file
* **`Injected.text`**: the text of an injected tree
* **`Package.fieldsFiles`**: the fields files of a package
* **`Package.build`**: building a package
-/

namespace ExternalFields

open Yaml

/-! ## Fields files -/

/-- The fields of a document with a content. -/
def fieldsOfOctets (path : Path) (octets : Octets) : Except Failure (List Field) :=
  match Manifest.textOf octets with
  | .error fault => .error (.schema (.parse (.notText path fault)))
  | .ok chars =>
    match Value.read chars with
    | .error .malformed => .error (.schema (.parse (.malformedFields path)))
    | .error e => .error (.data e)
    | .ok data => (Field.ofValue "" data).mapError .ofDocument

/-- The fields of a file. -/
def loadFields (files : FileSystem) (path : Path) : Except Failure (List Field) :=
  match files.read path with
  | .error e => .error (.file e)
  | .ok octets => fieldsOfOctets path octets

/-- The text of an injected tree. -/
def Injected.text (injected : Injected) : Except Failure String :=
  (Field.render true injected.fields).mapError .data

/-- The injected tree of a fields file. -/
def injectFile (files : FileSystem) (registered : Option Registry) (path : Path) :
    Except Failure Injected := do
  let fields ← loadFields files path
  (inject registered fields).mapError .importing

/-! ## Builds -/

/-- The result of a build: the output directory in absolute form, the files written, and those of
them into which anything was imported. -/
structure Build where
  output : Path
  written : List Path
  changed : List Path
  deriving Repr, Inhabited

namespace Package

variable {σ : Type}

/-- The name that builds log under. -/
def logName : Text := "fields_resolver.package_building.fields_build_use_case"

/-- The fields files in a directory below the root of a package, as paths from there. -/
def fieldsFilesIn (files : FileSystem) (root directory : Path) : Except FileError (List Path) := do
  let names := (← files.entries (root.join directory)).map Prod.fst
  let paths := (names.filter (Text.endsWith · ".yml")).map fun name => directory.join ⟨[], [name]⟩
  paths.filterM fun path => files.isFile? (root.join path)

/-- The directories of the data streams of a package, as paths from its root. -/
def streams (files : FileSystem) (root : Path) : Except FileError (List Path) := do
  let directory : Path := ⟨[], ["data_stream"]⟩
  let entries := (← files.entries (root.join directory)).filter (·.2 == .directory)
  return entries.map fun entry => directory.join ⟨[], [entry.1]⟩

/-- The fields files of a package, as paths from its root, in order: those of the package itself and
those of its data streams. -/
def fieldsFiles (files : FileSystem) (root : Path) : Except FileError (List Path) := do
  let own ← fieldsFilesIn files root ⟨[], ["fields"]⟩
  let ofStreams ← (← streams files root).mapM fun stream =>
    fieldsFilesIn files root (stream.join ⟨[], ["fields"]⟩)
  return (own ++ ofStreams.flatten).mergeSort fun a b => !b.before a

/-- The schemas of a package, none if it has no manifest. -/
def registry (store : Store) (server : Server σ) (root : Path) :
    Action σ (Option Registry) := do
  match ← Action.ofExcept id (Manifest.find (← Action.files) root) with
  | none => return none
  | some manifest => some <$> store.register server manifest.reference

/-- Injects a fields file and writes the result. The result says whether anything was imported. -/
def buildFile (registered : Option Registry) (source destination : Path) : Action σ Bool := do
  let injected ← Action.ofExcept id (injectFile (← Action.files) registered source)
  Action.makeDirectories destination.parent
  let text ← Action.ofExcept id injected.text
  Action.write destination (Utf8.encode text)
  return injected.changed

/-- What a failure to find out the schemas of a package amounts to: one of its manifest or of the
schemas is a failure of the package, any other stays what it is. -/
def registryFailure (failure : Failure) : Failure :=
  match failure with
  | .configuration _ | .schema _ | .importing (.notAllowed _) => .packageSchemas failure
  | _ => failure

/-- What a failure to build a file amounts to: one that is reported is a failure of the package, any
other stays what it is. -/
def fileFailure (source : Path) (failure : Failure) : Failure :=
  if failure.isReported then .packageFile source failure else failure

/-- Builds the files at some paths in order. The result holds the files written and those of them
into which anything was imported. -/
def buildFiles (registered : Option Registry) (root output : Path) :
    List Path → World σ → Except Failure (List Path × List Path) × World σ
  | [], world => (.ok ([], []), world)
  | path :: rest, world =>
    let source := root.join path
    let destination := output.join path
    match (buildFile registered source destination).run.run world with
    | (.error failure, world) => (.error (fileFailure source failure), world)
    | (.ok changed, world) =>
      let world :=
        if changed then world.logging logName ("Resolved external fields in " ++ path.text)
        else world
      match buildFiles registered root output rest world with
      | (.error failure, world) => (.error failure, world)
      | (.ok (written, changedFiles), world) =>
        (.ok (destination :: written, (if changed then [destination] else []) ++ changedFiles),
          world)

/-- Builds a package. -/
def build (store : Store) (server : Server σ) (root output : Path) (world : World σ) :
    Except Failure Build × World σ :=
  match world.files.isDirectory? root with
  | .error e => (.error (.file e), world)
  | .ok false => (.error (.packageMissing root), world)
  | .ok true =>
    match (registry store server root).run.run world with
    | (.error failure, world) => (.error (registryFailure failure), world)
    | (.ok registered, world) =>
      match fieldsFiles world.files root with
      | .error e => (.error (.file e), world)
      | .ok paths =>
        match buildFiles registered root output paths world with
        | (.error failure, world) => (.error failure, world)
        | (.ok (written, changed), world) =>
          match Manifest.absolute world.files output with
          | .error failure => (.error failure, world)
          | .ok output => (.ok { output, written, changed }, world)

end Package

end ExternalFields
