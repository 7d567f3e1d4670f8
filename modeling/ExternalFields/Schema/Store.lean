import ExternalFields.Definition.Reading
import ExternalFields.World
import ExternalFields.Yaml.Reading

/-!
# The schema store

Schemas are published in versions, named by Git references, and kept in a cache once they have been
downloaded. A retrieval reads the cache, and on a miss requests the schema, makes room for it and
writes it to the cache. It is a sequence of steps, between which other retrievals may take theirs.

* **`gitReference`**: the version that a reference names
* **`Store`**, **`Store.entry`**: the cache and the places of its entries
* **`Retrieval`**, **`Retrieval.step`**: a retrieval and its steps
* **`Store.retrieve`**: a whole retrieval
* **`readSchema`**: the definitions that a schema document writes
* **`Store.load`**: the definitions of a schema
-/

namespace ExternalFields

/-! ## References -/

/-- The mark that references to Git versions start with. -/
def gitMark : Text := "git@"

/-- The version that a reference names. -/
def gitReference (reference : Text) : Except ConfigurationError Text :=
  match gitMark.isPrefixOf? reference with
  | some version => .ok version
  | none => .error (.invalidReference reference)

/-! ## The cache -/

/-- A cache of schemas: the directory it is kept in, the address template of the server, and the
name that schemas have there and in the cache. -/
structure Store where
  root : Path
  address : Text :=
    "https://raw.githubusercontent.com/elastic/ecs/\x7breference\x7d/generated/ecs/\x7bfilename\x7d"
  file : Text := "ecs_nested.yml"
  deriving Repr, Inhabited

/-- The name that retrievals log under. -/
def Store.logName : Text := "fields_resolver.schema_management.schema_loading"

/-- The place of a version of a schema in the cache. -/
def Store.entry (store : Store) (schema version : Text) : Path :=
  ((store.root.child schema).child version).child store.file

/-- The address of a version of a schema. -/
def Store.url (store : Store) (version : Text) : Except Template.Problem Text :=
  Template.fill [("reference", version), ("filename", store.file)] store.address

/-- The content of a cache entry, nothing if it is missing. -/
def Store.cached (files : FileSystem) (entry : Path) : Except Failure (Option Octets) :=
  match files.read entry with
  | .ok content => .ok (some content)
  | .error e =>
    match e.obstacle with
    | .missing => .ok none
    | .unusable => .error (.file e)
    | _ => .error (.schema (.cacheUnreadable entry))

/-- The content of a reply: only the status 200 brings any. -/
def Reply.content (schema url : Text) : Reply → Except Failure Octets
  | .noResponse => .error (.schema (.unreachable url))
  | .response 404 _ => .error (.schema (.unsatisfied schema url))
  | .response 200 body => .ok body
  | .response status _ => .error (.schema (.unexpectedStatus status url))
  | .interrupted failure => .error failure

/-- Failing to change the cache is an error of the cache, unless the path cannot name any file. -/
def cacheFailure (wrap : Path → SchemaError) (path : Path) (e : FileError) : Failure :=
  if e.obstacle = .unusable then .file e else .schema (wrap path)

/-! ## Retrievals -/

variable {σ : Type}

/-- How far a retrieval has come. -/
inductive Retrieval where
  /-- The cache is to be read. -/
  | started
  /-- The schema is to be requested. -/
  | missed (url : Text)
  /-- The directories of the cache entry are to be made. -/
  | received (content : Octets)
  /-- The cache entry is to be written. -/
  | housed (content : Octets)
  /-- The retrieval is over. -/
  | finished (result : Except Failure Octets)

namespace Retrieval

/-- Reads the cache. On a miss the address is worked out. -/
def start (store : Store) (schema reference version : Text) (world : World σ) :
    Retrieval × World σ :=
  match Store.cached world.files (store.entry schema version) with
  | .error failure => (.finished (.error failure), world)
  | .ok (some content) => (.finished (.ok content), world)
  | .ok none =>
    let world := world.logging Store.logName
      ("Pulling " ++ schema ++ " dependency using reference: " ++ reference)
    match store.url version with
    | .error problem => (.finished (.error (.template problem)), world)
    | .ok url => (.missed url, world.logging Store.logName ("Schema URL: " ++ url))

/-- Requests the schema. -/
def request (server : Server σ) (schema url : Text) (world : World σ) :
    Retrieval × World σ :=
  let (reply, world) := server url (world.requesting url)
  match reply.content schema url with
  | .error failure => (.finished (.error failure), world)
  | .ok content =>
    (.received content, world.logging Store.logName
      ("Downloaded " ++ Text.ofNat content.length ++ " bytes"))

/-- Makes the directories of the cache entry. -/
def house (store : Store) (schema version : Text) (content : Octets) (world : World σ) :
    Retrieval × World σ :=
  let entry := store.entry schema version
  let (result, files) := world.files.makeDirectories entry.parent
  let world := world.withFiles files
  match result with
  | .error e => (.finished (.error (cacheFailure .cacheNotMade entry.parent e)), world)
  | .ok () =>
    (.housed content, world.logging Store.logName ("Cache downloaded schema: " ++ entry.text))

/-- Writes the cache entry. -/
def keep (store : Store) (schema version : Text) (content : Octets) (world : World σ) :
    Retrieval × World σ :=
  let entry := store.entry schema version
  match world.files.write entry content with
  | .error e => (.finished (.error (cacheFailure .cacheUnwritable entry e)), world)
  | .ok files => (.finished (.ok content), world.withFiles files)

/-- The next step of a retrieval. -/
def step (store : Store) (server : Server σ) (schema reference version : Text) :
    Retrieval → World σ → Retrieval × World σ
  | .started, world => start store schema reference version world
  | .missed url, world => request server schema url world
  | .received content, world => house store schema version content world
  | .housed content, world => keep store schema version content world
  | .finished result, world => (.finished result, world)

/-- Several steps in a row. -/
def steps (store : Store) (server : Server σ) (schema reference version : Text) :
    Nat → Retrieval → World σ → Retrieval × World σ
  | 0, retrieval, world => (retrieval, world)
  | count + 1, retrieval, world =>
    let (retrieval, world) := step store server schema reference version retrieval world
    steps store server schema reference version count retrieval world

/-- What a retrieval has brought. One that is not over has met no obstacle yet. -/
def result : Retrieval → Except Failure Octets
  | .finished result => result
  | .received content | .housed content => .ok content
  | .started | .missed _ => .ok []

end Retrieval

/-- The content of a version of a schema, from the cache or from the server: a retrieval is over
after four steps. -/
def Store.retrieve (store : Store) (server : Server σ) (schema reference : Text) :
    Action σ Octets := do
  let version ← Action.ofExcept .configuration (gitReference reference)
  let (retrieval, world) :=
    Retrieval.steps store server schema reference version 4 .started (← get)
  set world
  Action.ofExcept id retrieval.result

/-! ## Definitions -/

/-- The definitions of the data of a schema document. -/
def definitionsOf (data : Yaml.Value) : Except (ParseError ⊕ Yaml.ReadError) (List Definition) :=
  (Definition.ofValue "" data).mapError fun
    | .unusable e => .inr e
    | e => .inl (.document e)

/-- The definitions of a schema document in octets. A document that is not YAML is a parse error;
data that cannot be read or followed is not. -/
def readSchema (octets : Octets) : Except (ParseError ⊕ Yaml.ReadError) (List Definition) :=
  match Yaml.Value.readOctets octets with
  | .ok data => definitionsOf data
  | .error .malformed => .error (.inl .malformedSchema)
  | .error e => .error (.inr e)

/-- The definitions of a version of a schema, nothing if no version is named. -/
def Store.load (store : Store) (server : Server σ) (schema reference : Text) :
    Action σ (Option (List Definition)) := do
  if reference.isEmpty then
    Action.log logName (Text.uppercase schema ++ " dependency isn't defined")
    return none
  let content ← store.retrieve server schema reference
  match readSchema content with
  | .ok definitions => return some definitions
  | .error (.inr e) => throw (.data e)
  | .error (.inl e) =>
    let version ← Action.ofExcept .configuration (gitReference reference)
    throw (.schema (.unreadableSchema schema reference (store.entry schema version) e))

/-- The name of the schema that packages may depend on. -/
def ecsSchema : Text := "ecs"

/-- The schemas of a package that depends on a version of the common schema. -/
def Store.register (store : Store) (server : Server σ) (reference : Text) :
    Action σ Registry := do
  match ← store.load server ecsSchema reference with
  | none => return {}
  | some definitions => return Registry.insert {} ecsSchema definitions

end ExternalFields
