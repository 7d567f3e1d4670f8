import ExternalFields.Yaml.Node.Basic
import ExternalFields.Yaml.SetOrder

/-!
# Objects

The data of a document as objects that hold each other by number, as the nodes do that they are made
of. The data of an object is made of the data of what it holds. Where that goes round in a circle it
is made over and over again, and reaches one level deeper each time, down to a level where it is cut
off.

* **`Content`**: what an object holds
* **`Objects`**: the objects of a document
* **`Objects.toValue`**: the data of an object
-/

namespace ExternalFields.Yaml

/-- An entry of a list of pairs, which is an object of its own. -/
structure PairContent where
  key : NodeId
  value : NodeId
  mark : Nat
  deriving DecidableEq, Repr

/-- What an object holds: the data of a scalar, or other objects. -/
inductive Content where
  | single (value : Value)
  | list (items : List NodeId)
  | pairs (links : List PairContent)
  | mapping (entries : List (NodeId × NodeId))
  | set (members : List NodeId)
  deriving Repr, Inhabited

/-- The objects of a document by number, as far as they are known. -/
abbrev Objects := Array (Option Content)

namespace Content

/-- The objects that an object holds. -/
def parts : Content → List NodeId
  | .single _ => []
  | .list items => items
  | .pairs links => links.flatMap fun pair => [pair.key, pair.value]
  | .mapping entries => entries.flatMap fun entry => [entry.1, entry.2]
  | .set members => members

/-- The data of the object `id`, given that of the objects it holds. -/
def toValue (held : NodeId → Value) (id : NodeId) : Content → Value
  | .single value => value
  | .list items => .list (items.map held) (some id)
  | .pairs links =>
    .list (links.map fun pair => .pair (held pair.key) (held pair.value) (some pair.mark)) (some id)
  | .mapping entries => .mapping (entries.map fun entry => (held entry.1, held entry.2)) (some id)
  | .set members => .set (Value.listed (members.map held)) (some id)

end Content

/-! ## Following objects -/

/-- The data of objects as far as it is followed, and which of it is whole. -/
structure Unfolding where
  values : Array Value
  whole : Array Bool

namespace Unfolding

/-- No data at all. -/
def start (count : Nat) : Unfolding where
  values := Array.replicate count .endless
  whole := Array.replicate count false

/-- Makes the data of an object from that of the objects it holds. -/
def follow (objects : Objects) (unfolding : Unfolding) (id : NodeId) : Unfolding :=
  match objects.getD id none with
  | none => unfolding
  | some content => {
    values := unfolding.values.setIfInBounds id
      (content.toValue (unfolding.values.getD · .endless) id)
    whole := unfolding.whole.setIfInBounds id
      (content.parts.all (unfolding.whole.getD · false)) }

/-- Makes the data of some objects, one after the other. -/
def followAll (objects : Objects) (unfolding : Unfolding) (ids : List NodeId) : Unfolding :=
  ids.foldl (follow objects) unfolding

/-- Makes the data of some objects until no more of it becomes whole. The result also holds the
objects whose data does not. -/
def settle (objects : Objects) (unfolding : Unfolding) (ids : List NodeId) :
    Nat → Unfolding × List NodeId
  | 0 => (unfolding, ids)
  | fuel + 1 =>
    let next := unfolding.followAll objects ids
    let rest := ids.filter fun id => !next.whole.getD id false
    if rest.length < ids.length then settle objects next rest fuel else (next, rest)

/-- Gives up the data of some objects. -/
def forget (unfolding : Unfolding) (ids : List NodeId) : Unfolding :=
  { unfolding with
    values := ids.foldl (fun values id => values.setIfInBounds id .endless) unfolding.values }

/-- Makes the data of some objects all at once, each from what the data of the others was before. -/
def followTogether (objects : Objects) (unfolding : Unfolding) (ids : List NodeId) : Unfolding :=
  let held := unfolding.values
  let value (id : NodeId) : Value :=
    match objects.getD id none with
    | none => .endless
    | some content => content.toValue (held.getD · .endless) id
  { unfolding with values := ids.foldl (fun values id => values.setIfInBounds id (value id)) held }

/-- Makes the data of some objects so many levels deep, from none at all. -/
def deepen (objects : Objects) (unfolding : Unfolding) (ids : List NodeId) : Nat → Unfolding
  | 0 => unfolding.forget ids
  | levels + 1 => (unfolding.deepen objects ids levels).followTogether objects ids

end Unfolding

/-- So many levels of data that goes round in a circle are made. -/
def deepestData : Nat := 990

/-- The data of an object, given the objects in an order in which they mostly come after what they
hold. -/
def Objects.toValue (objects : Objects) (order : List NodeId) (root : NodeId) : Value :=
  let known := order.filter fun id => (objects.getD id none).isSome
  let (settled, rest) := (Unfolding.start objects.size).settle objects known (known.length + 1)
  let whole := if rest.isEmpty then settled else settled.deepen objects rest deepestData
  whole.values.getD root .endless

end ExternalFields.Yaml
