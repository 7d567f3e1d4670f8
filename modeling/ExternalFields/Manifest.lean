import ExternalFields.Text.Blank
import ExternalFields.World
import ExternalFields.Yaml.Reading

/-!
# Build manifests

A package declares in its build manifest which version of the common schema its fields are imported
from. Every level of the declaration may be missing or null. A package that has no manifest yet can
be given one to be filled in.

* **`Manifest`**: what a manifest declares
* **`Manifest.referenceIn`**: the reference in the data of a manifest
* **`Manifest.load`**: the manifest in a file
* **`Manifest.find`**: the manifest of a package, if it has one
* **`Manifest.scaffold`**: writing a manifest to be filled in, never over anything
-/

namespace ExternalFields

open Yaml

/-- A build manifest: the file it is in, and the reference to the common schema, which is empty if
the package depends on none. -/
structure Manifest where
  path : Path
  reference : Text
  deriving DecidableEq, Repr

namespace Manifest

/-! ## Data of manifests -/

/-- The entries of a section, which may be missing. -/
def section? (name : Text) : Option Value → Except ConfigurationError Entries
  | none | some .null => .ok []
  | some (.mapping entries _) => .ok entries
  | some _ => .error (.sectionNotMapping name)

/-- The reference in the section of the common schema, without blanks around it. -/
def ecsReference (ecs : Option Value) : Except ConfigurationError Text := do
  let entries ← section? "dependencies.ecs" ecs
  match Value.lookup "reference" entries with
  | none | some .null => return ""
  | some (.text s) => return Text.strip s
  | some _ => .error .referenceNotText

/-- The reference in the section of dependencies. -/
def dependencyReference (dependencies : Option Value) : Except ConfigurationError Text := do
  let entries ← section? "dependencies" dependencies
  ecsReference (Value.lookup "ecs" entries)

/-- The reference in the data of a manifest. -/
def referenceIn : Value → Except ConfigurationError Text
  | .null => dependencyReference none
  | .mapping entries _ => dependencyReference (Value.lookup "dependencies" entries)
  | _ => .error .rootNotMapping

/-! ## Manifest files -/

/-- The characters of a text file, all lines ending in line feeds. -/
def textOf (octets : Octets) : Except Utf8.Fault (List Char) :=
  Text.unifyLineEnds <$> Utf8.decode octets

/-- The manifest with a content. -/
def ofOctets (path : Path) (octets : Octets) : Except Failure Manifest :=
  match textOf octets with
  | .error fault => .error (.encoding fault)
  | .ok chars =>
    match Value.read chars with
    | .error .malformed => .error (.configuration (.manifestMalformed path))
    | .error e => .error (.data e)
    | .ok data =>
      match referenceIn data with
      | .error e => .error (.configuration e)
      | .ok reference => .ok { path, reference }

/-- The manifest in a file. -/
def load (files : FileSystem) (path : Path) : Except Failure Manifest :=
  match files.exists? path with
  | .error e => .error (.file e)
  | .ok false => .error (.configuration (.manifestMissing path))
  | .ok true =>
    match files.read path with
    | .error e => .error (.file e)
    | .ok octets => ofOctets path octets

/-- Where packages keep their manifests. -/
def usualPath : Path := ⟨"", ["_dev", "build", "build.yml"]⟩

/-- The manifest of a package, if it has one. -/
def find (files : FileSystem) (package : Path) : Except Failure (Option Manifest) :=
  let path := package.join usualPath
  match files.exists? path with
  | .error e => .error (.file e)
  | .ok false => .ok none
  | .ok true => some <$> load files path

/-! ## Scaffolds -/

/-- A manifest whose reference is to be filled in. -/
def template : String :=
  String.join (List.map (· ++ "\n") [
    "# Build manifest for a package using external field definitions.",
    "# Fields marked with \u0060external: ecs\u0060 are resolved against the ECS version below.",
    "",
    "dependencies:",
    "  ecs:",
    "    # Git reference of the ECS repository, prefixed with \"git@\" (tag or branch).",
    "    reference: \"git@<REQUIRED>\""])

/-- The absolute form of a path, which must be able to name a file. -/
def absolute (files : FileSystem) (path : Path) : Except Failure Path :=
  if path.isUsable then .ok (files.resolve path) else .error (.file ⟨.unusable, path⟩)

/-- Writes the template to a path where nothing is yet, making the directories on the way. The
result is the absolute form of the path. -/
def scaffold {σ : Type} (path : Path) : Action σ Path := do
  let files ← Action.files
  if ← Action.ofExcept .file (files.exists? path) then throw (.manifestExists (files.resolve path))
  Action.makeDirectories path.parent
  Action.write path (Utf8.encode template)
  Action.ofExcept id (absolute (← Action.files) path)

end Manifest

end ExternalFields
