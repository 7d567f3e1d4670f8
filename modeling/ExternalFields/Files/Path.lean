import ExternalFields.Files.Name

/-!
# Paths

Written paths, taken apart at their slashes. Empty segments and single dots say nothing and are
dropped; two dots lead to the parent of whatever the path has reached, so they stay.

* **`Path`**: a path
* **`Path.ofText`**, **`Path.text`**: reading and writing paths
* **`Path.join`**: a path seen from another one
* **`Path.before`**: the order of paths, segment by segment
* **`Path.isUsable`**: which paths can lead to files
-/

namespace ExternalFields

/-- A path. `root` is empty for a path that starts at the working directory, and holds the slashes
it starts with otherwise. -/
structure Path where
  root : Text := []
  segments : List Text := []
  deriving DecidableEq, Repr, Inhabited

namespace Path

/-- The runs of code points between the slashes; one more than there are slashes. -/
def splitSlashes : Text → List Text
  | [] => [[]]
  | c :: rest =>
    if c = '/' then [] :: splitSlashes rest
    else
      match splitSlashes rest with
      | [] => [[c]]
      | segment :: segments => (c :: segment) :: segments

/-- Whether a segment leads anywhere. -/
def isStep (segment : Text) : Bool :=
  !segment.isEmpty && segment != "."

/-- The slashes that a path starts with, as far as they matter: two are kept apart from one, more
are as good as one. -/
def rootOf (text : Text) : Text :=
  match (text.takeWhile fun c : CodePoint => c == '/').length with
  | 0 => []
  | 2 => "//"
  | _ => "/"

/-- Reads a path. -/
def ofText (text : Text) : Path where
  root := rootOf text
  segments := (splitSlashes text).filter isStep

/-- Whether a path starts at the root directory. -/
def isAbsolute (path : Path) : Bool := !path.root.isEmpty

/-- The written form of a path. One that leads nowhere is a single dot. -/
def text (path : Path) : Text :=
  let joined := path.root ++ List.intercalate "/" path.segments
  if joined.isEmpty then "." else joined

/-- A path seen from another one. An absolute path stays what it is. -/
def join (path other : Path) : Path :=
  if other.isAbsolute then other else { path with segments := path.segments ++ other.segments }

/-- A path seen from another one, as written. -/
def child (path : Path) (name : Text) : Path :=
  path.join (ofText name)

/-- The path without its last segment. -/
def parent (path : Path) : Path :=
  { path with segments := path.segments.dropLast }

/-- Whether one list of segments comes before another one: by the first difference. -/
def segmentsBefore : List Text → List Text → Bool
  | [], [] => false
  | [], _ :: _ => true
  | _ :: _, [] => false
  | a :: as, b :: bs => a < b || (a == b && segmentsBefore as bs)

/-- Whether one path comes before another one, segment by segment. -/
def before (a b : Path) : Bool :=
  segmentsBefore a.segments b.segments

/-- The length of the written form in octets. -/
def size (path : Path) : Nat :=
  (FileName.octets path.text).length

/-- Whether a path can be put into octets. -/
def isEncodable (path : Path) : Bool :=
  path.segments.all FileName.isEncodable

/-- Whether there can be a file at a path. -/
def isUsable (path : Path) : Bool :=
  path.segments.all FileName.isUsable

end Path

end ExternalFields
