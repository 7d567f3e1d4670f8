import ExternalFields.Yaml.Node.Merging
import ExternalFields.Yaml.Object
import ExternalFields.Yaml.Scalar

/-!
# Building objects

The objects that the nodes of a document become, one level after the other: a collection is filled
only after all others that were met before it, and what it holds is met in the order of the
document. So the first fault in that order is the one that counts. A node becomes one object,
however often it is met.

* **`Builder`**: the objects so far
* **`Graph.toValue`**: the data of a document
-/

namespace ExternalFields.Yaml

/-- The nodes as they have become by merging, the objects so far, those of them that are collections
still to be filled, the latest first, and the next mark of a pair. -/
structure Builder where
  nodes : Nodes
  mergeCount : Nat
  objects : Objects
  waiting : List NodeId := []
  nextMark : Nat

namespace Builder

/-- Steps that build objects. -/
abbrev Build := StateT Builder (Except ReadError)

/-- Fails, the nodes being no data. -/
def fail {α : Type} : Build α := throw .malformed

/-- The node of a number. -/
def node (id : NodeId) : Build Node :=
  return (← get).nodes.node id

/-- What an object holds, if it is known. -/
def content? (id : NodeId) : Build (Option Content) :=
  return (← get).objects.getD id none

/-- States what an object holds. -/
def setContent (id : NodeId) (content : Content) : Build Unit :=
  modify fun builder => { builder with objects := builder.objects.setIfInBounds id (some content) }

/-- Makes the merges of a mapping. The nodes are handed over, so that they can change in place. -/
def merge (id : NodeId) : Build Unit := fun builder => do
  let nodes := builder.nodes
  let rest := { builder with nodes := #[] }
  let (_, nodes) ← (Nodes.merge builder.mergeCount id).run nodes
  return ((), { rest with nodes })

/-! ## Scalars -/

/-- The text of a node that is to become a scalar: of a mapping, the text under its key `=`. -/
def scalarText (nodes : Nodes) (id : NodeId) : Nat → Except ReadError Text
  | 0 => .error .tooDeep
  | fuel + 1 =>
    match nodes.node id with
    | .scalar _ text => .ok text
    | .mapping _ entries =>
      match entries.find? fun entry => (nodes.node entry.1).tag == .standard with
      | some entry => scalarText nodes entry.2 fuel
      | none => .error .malformed
    | .list .. => .error .malformed

/-- The data of a node that is to become a scalar. -/
def scalar (id : NodeId) : Build Value := do
  let nodes := (← get).nodes
  let node := nodes.node id
  if node.tag.isScalar then
    let text ← scalarText nodes id (nodes.size + 1)
    if node.tag == .timestamp && node.isMapping then throw .compoundTimestamp
    Scalar.read node.tag text (some id)
  else fail

/-- Builds the object of a node. A collection is left to be filled. -/
def build (id : NodeId) : Build Unit := do
  if (← content? id).isNone then
    if (← node id).tag.isCollection then
      setContent id (.list [])
      modify fun builder => { builder with waiting := id :: builder.waiting }
    else setContent id (.single (← scalar id))

/-! ## Keys -/

/-- A key: its object and its data. -/
abbrev Key := NodeId × Value

/-- The object of a key. All plain words for not-a-number are one and the same object, whose number
no node has. -/
def keyObject (id : NodeId) (value : Value) : Build NodeId := do
  let nodes := (← get).nodes
  match value, nodes.node id with
  | .float .nan, .scalar _ text =>
    return if (Scalar.signedMagnitude text.chars).2 == Scalar.nanWord then nodes.size else id
  | _, _ => return id

/-- Builds the object of a key, which cannot be a collection. -/
def buildKey (id : NodeId) : Build Key := do
  build id
  match ← content? id with
  | some (.single value) => return (← keyObject id value, value)
  | _ => fail

/-- Whether two keys are one. -/
def sameKey (a b : Key) : Bool :=
  a.1 == b.1 || a.2.sameKey b.2

/-- Puts an object under a key, which is the object `id`. A key that is there already keeps its
place and its form. -/
def put (key : Key) (id value : NodeId) : List (Key × NodeId × NodeId) →
    List (Key × NodeId × NodeId)
  | [] => [(key, id, value)]
  | (other, place, old) :: rest =>
    if sameKey other key then (other, place, value) :: rest
    else (other, place, old) :: put key id value rest

/-- Builds the objects of the entries of a mapping. -/
def buildEntries (entries : List (NodeId × NodeId)) : Build (List (NodeId × NodeId)) := do
  let keyed ← entries.mapM fun (id, value) => do
    let key ← buildKey id
    build value
    return (key, id, value)
  return (keyed.foldl (fun done (key, id, value) => put key id value done) []).map Prod.snd

/-! ## Collections -/

/-- Builds the objects of the only entry of a mapping. -/
def buildPair (id : NodeId) : Build PairContent := do
  match ← node id with
  | .mapping _ [(key, value)] =>
    build key
    build value
    let mark := (← get).nextMark
    modify fun builder => { builder with nextMark := mark + 1 }
    return { key, value, mark }
  | _ => fail

/-- Builds the objects that a collection holds. -/
def fill (id : NodeId) : Build Unit := do
  let node ← node id
  match node.tag, node with
  | .list, .list _ items =>
    items.forM build
    setContent id (.list items)
  | .pairs, .list _ items | .orderedPairs, .list _ items =>
    setContent id (.pairs (← items.mapM buildPair))
  | .mapping, .mapping .. =>
    merge id
    setContent id (.mapping (← buildEntries (← Builder.node id).entries))
  | .set, .mapping .. =>
    merge id
    setContent id (.set ((← buildEntries (← Builder.node id).entries).map Prod.fst))
  | _, _ => fail

/-- Fills the collections that are waiting, and those that come up then, so many times over. -/
def fillAll : Nat → Build Unit
  | 0 => return ()
  | rounds + 1 => do
    let waiting := (← get).waiting.reverse
    if !waiting.isEmpty then
      modify fun builder => { builder with waiting := [] }
      waiting.forM fill
      fillAll rounds

end Builder

/-- The data of a document. A node waits once, so that there are no more rounds than nodes. -/
def Graph.toValue (graph : Graph) : Except ReadError Value := do
  let count := graph.nodes.size
  let start : Builder := {
    nodes := graph.nodes
    mergeCount := graph.nodes.mergeCount
    objects := Array.replicate count none
    nextMark := count + 1 }
  let (_, builder) ← (do Builder.build graph.root; Builder.fillAll count).run start
  return builder.objects.toValue graph.order graph.root

end ExternalFields.Yaml
