import ExternalFields.Failure

/-!
# The world around the program

What the program works on: files, a server that answers requests, and the lines that it logs. A
request takes time, during which the world may change, and anything else that goes on then may fail.
The program knows nothing about what the server keeps in mind between requests.

* **`World`**: the files, the requests made, the lines logged, and the server's memory
* **`Server`**: what requests are answered
* **`Action`**: operations on the world, which may fail; what was done before stays done
-/

namespace ExternalFields

/-- A line of the log, with the part of the program that wrote it. -/
structure LogLine where
  source : Text
  text : Text
  deriving DecidableEq, Repr

/-- The files, the addresses requested and the lines logged, in order, and what the server keeps in
mind. -/
structure World (σ : Type) where
  files : FileSystem
  requests : List Text := []
  log : List LogLine := []
  memory : σ
  deriving Repr, Inhabited

/-- The answer to a request. -/
inductive Reply where
  | response (status : Int) (body : Octets)
  /-- The server could not be reached, or the transfer failed. -/
  | noResponse
  /-- Something else failed while the request was under way, and the request with it. -/
  | interrupted (failure : Failure)
  deriving DecidableEq, Repr

/-- What a server answers to the request of an address, and the world after that. -/
abbrev Server (σ : Type) := Text → World σ → Reply × World σ

/-- Operations on the world, which may fail. -/
abbrev Action (σ : Type) := ExceptT Failure (StateM (World σ))

variable {σ : Type}

namespace World

/-- Replaces the files. -/
def withFiles (world : World σ) (files : FileSystem) : World σ := { world with files }

/-- Adds a line to the log. -/
def logging (world : World σ) (source text : Text) : World σ :=
  { world with log := world.log ++ [⟨source, text⟩] }

/-- Adds a request. -/
def requesting (world : World σ) (url : Text) : World σ :=
  { world with requests := world.requests ++ [url] }

end World

namespace Action

/-- The files as they are. -/
def files : Action σ FileSystem := return (← get).files

/-- Turns a result into an operation. -/
def ofExcept {α ε : Type} (wrap : ε → Failure) : Except ε α → Action σ α
  | .ok a => pure a
  | .error e => throw (wrap e)

/-- Makes a directory and its parents. -/
def makeDirectories (path : Path) : Action σ Unit := do
  let (result, files) := (← files).makeDirectories path
  modify (·.withFiles files)
  ofExcept .file result

/-- Writes a file. -/
def write (path : Path) (content : Octets) : Action σ Unit := do
  let files ← ofExcept .file ((← files).write path content)
  modify (·.withFiles files)

/-- Logs a line. -/
def log (source text : Text) : Action σ Unit :=
  modify (·.logging source text)

end Action

end ExternalFields
