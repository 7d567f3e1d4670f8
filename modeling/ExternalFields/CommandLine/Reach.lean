import ExternalFields.CommandLine.Running

/-!
# What a command line reaches

A command reads and writes only what its words and its environment name, and what lies below. So it
can be run on a part of the files: the places on the way along these paths, and all that the paths
end in.

* **`Environment.pathsNamed`**: the paths that a command line may mean
* **`FileSystem.placesPassed`**: the places on the way along a path
* **`FileSystem.changesTo`**: what has to be written to turn one file system into another one
-/

namespace ExternalFields

/-- The places that following segments passes, from a place on, whether or not they are there. -/
def FileSystem.placesFrom (place : Location) : List Text → List Location
  | [] => [place]
  | segment :: rest =>
    place :: placesFrom (if segment = ".." then place.dropLast else place ++ [segment]) rest

/-- The places on the way along a path, and the one where it ends last. -/
def FileSystem.placesPassed (files : FileSystem) (path : Path) : List Location :=
  placesFrom (files.start path) path.segments

/-- What has to be written to turn one file system into another one, directories before what they
hold. -/
def FileSystem.changesTo (old new : FileSystem) : List (Location × Item) :=
  (new.items.filter fun entry => old.item? entry.1 != some entry.2).reverse

namespace CommandLine

/-- The paths that a word may name: the word itself, or the value that stands in it. -/
def pathsOfWord (word : Text) : List Path :=
  [some word, (Arguments.splitValue word).2].filterMap fun text? => text?.map Path.ofText

/-- The paths that a command line may mean, those included that it leaves to the environment. -/
def Environment.pathsNamed (environment : Environment) (words : List Text) : List Path :=
  (environment.store environment.cacheDirectory).root :: Path.ofText manifestDefault
    :: words.flatMap pathsOfWord

end CommandLine

end ExternalFields
