import ExternalFields.DocumentError
import ExternalFields.Files.FileSystem
import ExternalFields.Injection
import ExternalFields.Text.Template
import ExternalFields.Text.Uppercase

/-!
# Failures

Everything that can go wrong, by cause, with the wording that users see.

* **`ParseError`**: a fields document or a schema document that cannot be understood
* **`SchemaError`**: a schema that cannot be had
* **`ConfigurationError`**: a build manifest that cannot be used
* **`Failure`**: any of these, and the failures of files, single values and packages
* **`Failure.isReported`**: which of them are reported as errors of the input
* **`Failure.isOfPackage`**: which of them say why a package cannot be built
-/

namespace ExternalFields

/-- What is said about a text that is not YAML. -/
def malformedText : Text := "not a YAML document"

/-- Why a fields document or a schema document cannot be understood. -/
inductive ParseError where
  /-- Its data is not that of such a document. -/
  | document (e : DocumentError)
  /-- A schema document is not YAML. -/
  | malformedSchema
  /-- A fields file is not text. -/
  | notText (path : Path) (fault : Utf8.Fault)
  /-- A fields file is not YAML. -/
  | malformedFields (path : Path)
  deriving DecidableEq, Repr

/-- The wording of an error. -/
def ParseError.message : ParseError → Text
  | .document e => e.message
  | .malformedSchema => "unmarshalling field body failed: " ++ malformedText
  | .notText path fault => "Fields file " ++ path.text ++ " is not valid UTF-8: " ++ fault.message
  | .malformedFields path => "Failed to parse fields file " ++ path.text ++ ": " ++ malformedText

/-- Why a schema cannot be had. -/
inductive SchemaError where
  | parse (e : ParseError)
  /-- The document of a schema, kept at `path`, cannot be understood. -/
  | unreadableSchema (schema reference : Text) (path : Path) (e : ParseError)
  /-- The server has no such schema. -/
  | unsatisfied (schema url : Text)
  /-- The server cannot be reached. -/
  | unreachable (url : Text)
  /-- The server answers with an unexpected status. -/
  | unexpectedStatus (status : Int) (url : Text)
  | cacheUnreadable (path : Path)
  | cacheNotMade (path : Path)
  | cacheUnwritable (path : Path)
  deriving DecidableEq, Repr

/-- The wording of an error. -/
def SchemaError.message : SchemaError → Text
  | .parse e => e.message
  | .unreadableSchema schema reference path e =>
    "can't parse " ++ Text.uppercase schema ++ " schema (reference: " ++ reference ++ ", path: "
      ++ path.text ++ "): " ++ e.message
  | .unsatisfied schema url =>
    "unsatisfied " ++ Text.uppercase schema ++ " dependency, reference defined in build manifest "
      ++ "doesn't exist (HTTP StatusNotFound, URL: " ++ url ++ ")"
  | .unreachable url => "can't download the online schema (URL: " ++ url ++ ")"
  | .unexpectedStatus status url =>
    "unexpected HTTP status code: " ++ toString status ++ " (URL: " ++ url ++ ")"
  | .cacheUnreadable path => "can't read cached schema (path: " ++ path.text ++ ")"
  | .cacheNotMade path => "can't create cache directories for schema (path: " ++ path.text ++ ")"
  | .cacheUnwritable path => "can't write cached schema (path: " ++ path.text ++ ")"

/-- Why a build manifest cannot be used. -/
inductive ConfigurationError where
  /-- A reference does not start with the mark of Git references. -/
  | invalidReference (reference : Text)
  | manifestMissing (path : Path)
  | manifestMalformed (path : Path)
  | rootNotMapping
  | sectionNotMapping (name : Text)
  | referenceNotText
  deriving DecidableEq, Repr

/-- The wording of an error. -/
def ConfigurationError.message : ConfigurationError → Text
  | .invalidReference reference =>
    "invalid Git reference \"" ++ reference ++ "\" (\"git@\" prefix expected)"
  | .manifestMissing path => "Build manifest not found: " ++ path.text
  | .manifestMalformed path =>
    "Failed to parse build manifest " ++ path.text ++ ": " ++ malformedText
  | .rootNotMapping => "Build manifest root must be a mapping."
  | .sectionNotMapping name => "Build manifest section '" ++ name ++ "' must be a mapping."
  | .referenceNotText => "dependencies.ecs.reference must be a string."

/-- Anything that can go wrong. -/
inductive Failure where
  | configuration (e : ConfigurationError)
  | schema (e : SchemaError)
  | importing (e : ImportError)
  | file (e : FileError)
  /-- There is a manifest already where one is to be written. -/
  | manifestExists (path : Path)
  /-- A manifest is not text. -/
  | encoding (fault : Utf8.Fault)
  /-- The data of a document cannot be read or written. -/
  | data (e : Yaml.ReadError)
  /-- A text that is to be shown holds halves of pairs. -/
  | unencodable
  /-- The template of schema addresses cannot be filled. -/
  | template (problem : Template.Problem)
  /-- The package to be built is not there. -/
  | packageMissing (root : Path)
  /-- The schemas of a package cannot be found out. -/
  | packageSchemas (cause : Failure)
  /-- A fields file of a package cannot be built. -/
  | packageFile (path : Path) (cause : Failure)
  /-- What the program depends on fails in a way of its own, which has a name. -/
  | foreign (name : Text)
  deriving DecidableEq, Repr

namespace Failure

/-- The failure that wrong data of a fields document or a schema document amounts to. -/
def ofDocument : DocumentError → Failure
  | .unusable e => .data e
  | e => .schema (.parse (.document e))

/-- Whether a failure is reported as an error of the input. The others are those of packages, and of
values that no operation expects. -/
def isReported : Failure → Bool
  | .configuration _ | .schema _ | .importing _ | .manifestExists _ => true
  | .file e => e.obstacle != .unusable
  | _ => false

/-- Whether a failure says why a package cannot be built. -/
def isOfPackage : Failure → Bool
  | .packageMissing _ | .packageSchemas _ | .packageFile .. => true
  | _ => false

/-- The wording of a failure. -/
def message : Failure → Text
  | .configuration e => e.message
  | .schema e => e.message
  | .importing e => e.message
  | .file e => e.message
  | .manifestExists path => "Build manifest already exists: " ++ path.text
  | .encoding fault => fault.message
  | .data _ => "unusable data"
  | .unencodable => "unusable text"
  | .template _ => "unusable address template"
  | .packageMissing root => "Package root not found: " ++ root.text
  | .packageSchemas cause => "can't create field dependency manager: " ++ cause.message
  | .packageFile path cause =>
    "can't build fields file " ++ path.text ++ ": " ++ cause.message
  | .foreign name => name

end Failure

end ExternalFields
