import ExternalFields.Files.Path
import ExternalFields.Text.Quoted

/-!
# File systems

Files and directories below one root directory, with a working directory. A path is followed
segment by segment: everything it passes must be there and be a directory, and two dots lead to
the parent of what has been reached. Names are at most 255 octets long.

* **`FileSystem`**: the files and directories
* **`Obstacle`**, **`FileError`**: why an operation on a path fails
* **`FileSystem.locate`**: following a path
* **`FileSystem.read`**, **`FileSystem.write`**, **`FileSystem.makeDirectory`**: operations
* **`FileSystem.makeDirectories`**: a directory together with its missing parents
* **`FileSystem.resolve`**: the absolute form of a path
-/

namespace ExternalFields

/-- A place in a file system: the names on the way to it from the root directory. -/
abbrev Location := List Text

/-- What is found at a place. -/
inductive Item where
  | file (content : Octets)
  | directory
  deriving DecidableEq, Repr

/-- The files and directories, by their places; the root directory is always there. Relative paths
start at `here`. -/
structure FileSystem where
  here : Location := []
  items : List (Location × Item) := []
  deriving Repr, Inhabited

/-! ## Errors -/

/-- Why a path cannot be used. -/
inductive Obstacle where
  | missing
  | exists
  | notDirectory
  | isDirectory
  | nameTooLong
  /-- The path leads nowhere else, so that what is there has no name in any directory. -/
  | nameless
  /-- No file can have the path. -/
  | unusable
  deriving DecidableEq, Repr

/-- An operation that failed, and the path it was for. -/
structure FileError where
  obstacle : Obstacle
  path : Path
  deriving DecidableEq, Repr

/-- The number that systems give an obstacle. -/
def Obstacle.code : Obstacle → Nat
  | .missing => 2
  | .exists => 17
  | .notDirectory => 20
  | .isDirectory => 21
  | .nameTooLong => 36
  | .nameless | .unusable => 22

/-- The wording of an obstacle. -/
def Obstacle.message : Obstacle → String
  | .missing => "No such file or directory"
  | .exists => "File exists"
  | .notDirectory => "Not a directory"
  | .isDirectory => "Is a directory"
  | .nameTooLong => "File name too long"
  | .nameless | .unusable => "Invalid argument"

/-- The wording of an error. -/
def FileError.message (e : FileError) : Text :=
  "[Errno " ++ Text.ofNat e.obstacle.code ++ "] " ++ e.obstacle.message ++ ": "
    ++ Text.quote e.path.text

namespace FileSystem

/-! ## Places -/

/-- What is found at a place, if anything. -/
def item? (fs : FileSystem) (place : Location) : Option Item :=
  if place.isEmpty then some .directory else fs.items.lookup place

/-- Puts something at a place, where there may be something else. -/
def put (fs : FileSystem) (place : Location) (item : Item) : FileSystem :=
  { fs with items := (place, item) :: fs.items.filter fun entry => entry.1 != place }

/-- Takes away what is at a place. -/
def drop (fs : FileSystem) (place : Location) : FileSystem :=
  { fs with items := fs.items.filter fun entry => entry.1 != place }

/-- Takes away everything below a place. -/
def dropBelow (fs : FileSystem) (place : Location) : FileSystem :=
  { fs with items := fs.items.filter fun entry =>
      entry.1 == place || !place.isPrefixOf entry.1 }

/-- Whether there is a directory at a place. -/
def isDirectoryAt (fs : FileSystem) (place : Location) : Bool :=
  fs.item? place == some .directory

/-- Whether a name is longer than any file's. -/
def isTooLong (name : Text) : Bool := 255 < (FileName.octets name).length

/-- The longest path that can be used, in octets. -/
def longestPath : Nat := 4095

/-! ## Following paths -/

/-- Goes on from a place by one segment, to something that is there. -/
def enter (fs : FileSystem) (place : Location) (segment : Text) : Except Obstacle Location :=
  if !fs.isDirectoryAt place then .error .notDirectory
  else if segment = "." then .ok place
  else if segment = ".." then .ok place.dropLast
  else if isTooLong segment then .error .nameTooLong
  else
    let next := place ++ [FileName.normal segment]
    if (fs.item? next).isSome then .ok next else .error .missing

/-- Follows segments from a place on. -/
def follow (fs : FileSystem) (place : Location) : List Text → Except Obstacle Location
  | [] => .ok place
  | segment :: rest =>
    match fs.enter place segment with
    | .ok next => fs.follow next rest
    | .error obstacle => .error obstacle

/-- The place where a path starts. -/
def start (fs : FileSystem) (path : Path) : Location :=
  if path.isAbsolute then [] else fs.here

/-- Whether a path can be used at all. -/
def checkPath (path : Path) : Except Obstacle Unit :=
  if !path.isUsable then .error .unusable
  else if longestPath < path.size then .error .nameTooLong
  else .ok ()

/-- The place of something that is there. -/
def locate (fs : FileSystem) (path : Path) : Except Obstacle Location := do
  checkPath path
  fs.follow (fs.start path) path.segments

/-- The place that a path names, whether or not anything is there: its parent must be. A path that
ends in two dots, or leads nowhere, names a directory that is there. -/
def locateNew (fs : FileSystem) (path : Path) : Except Obstacle Location := do
  checkPath path
  match path.segments.getLast? with
  | none => return fs.start path
  | some name =>
    let parent ← fs.follow (fs.start path) path.segments.dropLast
    if !fs.isDirectoryAt parent then .error .notDirectory
    else if name = ".." then return parent.dropLast
    else if isTooLong name then .error .nameTooLong
    else return parent ++ [FileName.normal name]

/-- What a path leads to, or why it leads to nothing. -/
def find (fs : FileSystem) (path : Path) : Except Obstacle Item := do
  let place ← fs.locate path
  match fs.item? place with
  | some item => return item
  | none => .error .missing

/-- Whether a question about a path is answered by no: there is nothing, or no way there. -/
def isAbsence : Obstacle → Bool
  | .missing | .notDirectory | .unusable => true
  | _ => false

/-- Whether a path leads to something that fits. A name that is too long is an error, since nothing
can be said about it. -/
def test (fs : FileSystem) (fits : Item → Bool) (path : Path) : Except FileError Bool :=
  match fs.find path with
  | .ok item => .ok (fits item)
  | .error obstacle => if isAbsence obstacle then .ok false else .error ⟨obstacle, path⟩

/-- Whether a path leads anywhere. -/
def exists? (fs : FileSystem) (path : Path) : Except FileError Bool :=
  fs.test (fun _ => true) path

/-- Whether a path leads to a file. -/
def isFile? (fs : FileSystem) (path : Path) : Except FileError Bool :=
  fs.test (· != .directory) path

/-- Whether a path leads to a directory. -/
def isDirectory? (fs : FileSystem) (path : Path) : Except FileError Bool :=
  fs.test (· == .directory) path

/-! ## Operations -/

/-- The content of a file. -/
def read (fs : FileSystem) (path : Path) : Except FileError Octets :=
  match fs.find path with
  | .ok (.file content) => .ok content
  | .ok .directory => .error ⟨.isDirectory, path⟩
  | .error obstacle => .error ⟨obstacle, path⟩

/-- Writes a file, a new one or over an old one. -/
def write (fs : FileSystem) (path : Path) (content : Octets) : Except FileError FileSystem :=
  match fs.locateNew path with
  | .ok place =>
    if fs.isDirectoryAt place then .error ⟨.isDirectory, path⟩
    else .ok (fs.put place (.file content))
  | .error obstacle => .error ⟨obstacle, path⟩

/-- Makes a directory where there is nothing. -/
def makeDirectory (fs : FileSystem) (path : Path) : Except FileError FileSystem :=
  match fs.locateNew path with
  | .ok place =>
    if (fs.item? place).isSome then .error ⟨.exists, path⟩
    else .ok (fs.put place .directory)
  | .error obstacle => .error ⟨obstacle, path⟩

/-- Lets a directory that is there already pass for one just made. -/
def orDirectory (fs : FileSystem) (path : Path) (e : FileError) : Except FileError Unit :=
  match fs.isDirectory? path with
  | .ok true => .ok ()
  | .ok false => .error e
  | .error other => .error other

/-- Makes a directory whose path has `depth` segments, with those of its parents that are missing.
What was made stays if something fails later. -/
def makeDirectoriesTo (fs : FileSystem) (path : Path) :
    Nat → Except FileError Unit × FileSystem
  | 0 =>
    match fs.makeDirectory path with
    | .ok made => (.ok (), made)
    | .error e => (if e.obstacle = .missing then .error e else fs.orDirectory path e, fs)
  | depth + 1 =>
    match fs.makeDirectory path with
    | .ok made => (.ok (), made)
    | .error e =>
      if e.obstacle = .unusable then (.error e, fs)
      else if e.obstacle = .missing then
        match fs.makeDirectoriesTo path.parent depth with
        | (.error e, made) => (.error e, made)
        | (.ok (), made) =>
          match made.makeDirectory path with
          | .ok done => (.ok (), done)
          | .error e =>
            (if e.obstacle = .missing then .error e else made.orDirectory path e, made)
      else (fs.orDirectory path e, fs)

/-- Makes a directory with those of its parents that are missing, unless it is there already. -/
def makeDirectories (fs : FileSystem) (path : Path) : Except FileError Unit × FileSystem :=
  fs.makeDirectoriesTo path path.segments.length

/-- Removes what a path leads to, a directory after everything in it. That stays removed if the path
does not lead to the directory any more, or cannot name it. -/
def remove (fs : FileSystem) (path : Path) : Except FileError Unit × FileSystem :=
  match fs.isDirectory? path with
  | .error e => (.error e, fs)
  | .ok _ =>
    match fs.locate path with
    | .error obstacle => (.error ⟨obstacle, path⟩, fs)
    | .ok place =>
      let emptied := fs.dropBelow place
      if path.segments.isEmpty then (.error ⟨.nameless, path⟩, emptied)
      else
        match emptied.locate path with
        | .error obstacle => (.error ⟨obstacle, path⟩, emptied)
        | .ok place => (.ok (), emptied.drop place)

/-! ## Views -/

/-- The names of everything directly below a place, in the order of code points. -/
def names (fs : FileSystem) (place : Location) : List Text :=
  (fs.items.filterMap fun (other, _) =>
    if other.dropLast == place && !other.isEmpty then other.getLast? else none).mergeSort
      fun a b => !(b < a)

/-- What the directory at a path holds, by name; nothing if there is no directory. -/
def entries (fs : FileSystem) (path : Path) : Except FileError (List (Text × Item)) := do
  if ← fs.isDirectory? path then
    let place := (fs.locate path).toOption.getD []
    return (fs.names place).filterMap fun name =>
      (fs.item? (place ++ [name])).map fun item => (name, item)
  else return []

/-- The places of a path's segments taken one by one, two dots cancelling the name before. -/
def cancelDots (place : Location) : List Text → Location
  | [] => place
  | segment :: rest =>
    cancelDots (if segment = ".." then place.dropLast else place ++ [segment]) rest

/-- The absolute form of a path without two dots. -/
def resolve (fs : FileSystem) (path : Path) : Path where
  root := "/"
  segments := cancelDots (fs.start path) path.segments

end FileSystem

end ExternalFields
