import ExternalFields.CommandLine.Reach

/-!
# The program

Runs a command line on the files of this machine. What the command line reaches is read first, the
command is run on that, and what it has changed is written back. Nothing is fetched: a schema has
to be in the cache.

* **`readReach`**: the part of the files that a command line reaches
* **`writeChanges`**: writing back what has changed
* **`main`**: the program
-/

namespace ExternalFields.CommandLine

/-- The written form of a place. -/
def placeText (place : Location) : String :=
  (Path.mk "/" place).text.string

/-- What is found at a place, and the names below it. -/
def lookAt (place : Location) : IO (Option (Item × List Text)) := do
  let path := (← IO.currentDir) / placeText place
  match ← path.readDir.toBaseIO with
  | .ok entries => return some (.directory, (entries.map (Text.ofString ·.fileName)).toList)
  | .error _ =>
    match ← (IO.FS.readBinFile path).toBaseIO with
    | .ok content => return some (.file content.toList, [])
    | .error _ => return none

/-- Adds what is found at a place. -/
def readPlace (files : FileSystem) (place : Location) : IO FileSystem := do
  match ← lookAt place with
  | some (item, _) => return files.put place item
  | none => return files

/-- Adds what is found at a place and below it. -/
partial def readTree (files : FileSystem) (place : Location) : IO FileSystem := do
  match ← lookAt place with
  | some (item, names) =>
    names.foldlM (fun files name => readTree files (place ++ [name])) (files.put place item)
  | none => return files

/-- The part of the files that paths reach: the places on the way, and all below their ends. -/
def readReach (here : Location) (paths : List Path) : IO FileSystem := do
  let mut files : FileSystem := { here := here }
  for place in files.placesPassed ⟨"/", here⟩ do
    files ← readPlace files place
  for path in paths do
    for place in files.placesPassed path do
      files ← readPlace files place
  for path in paths do
    if let some place := (files.placesPassed path).getLast? then
      files ← readTree files place
  return files

/-- Writes what has changed. -/
def writeChanges (changes : List (Location × Item)) : IO Unit := do
  for (place, item) in changes do
    match item with
    | .directory => IO.FS.createDir (placeText place)
    | .file content => IO.FS.writeBinFile (placeText place) ⟨content.toArray⟩

/-- The server of a program that fetches nothing. -/
def noServer : Server Unit := fun _ world => (.noResponse, world)

/-- Runs a command line: its exit code. -/
def runHere (words : List Text) : IO UInt32 := do
  let environment : Environment :=
    { home := (← IO.getEnv "HOME").getD "/"
      cacheDirectory := (← IO.getEnv "FIELDS_RESOLVER_CACHE_DIR").map Text.ofString }
  let here := (Path.ofText (toString (← IO.currentDir))).segments
  let files ← readReach here (environment.pathsNamed words)
  let (result, world) := run environment noServer words { files := files, memory := () }
  writeChanges (files.changesTo world.files)
  match result with
  | .ok outcome =>
    (← IO.getStdout).putStr outcome.stdout.string
    (← IO.getStderr).putStr outcome.stderr.string
    return outcome.exit.toUInt32
  | .error failure =>
    (← IO.getStderr).putStr (failure.message.string ++ "\n")
    return 1

end ExternalFields.CommandLine

/-- Runs the words of the command line. -/
def main (words : List String) : IO UInt32 :=
  ExternalFields.CommandLine.runHere (words.map ExternalFields.Text.ofString)
