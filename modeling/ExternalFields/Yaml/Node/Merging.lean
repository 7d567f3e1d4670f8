import ExternalFields.Yaml.Node.Basic
import ExternalFields.Yaml.Value

/-!
# Merging mappings

The value under the key `<<` of a mapping is a mapping, or a list of them, whose entries are put in
front of the mapping's own. Of the mappings of a list the last one comes first, so that the entries
of earlier ones win. What is merged has its own merges made before.

* **`Nodes.merge`**: makes the merges of a mapping
-/

namespace ExternalFields.Yaml

/-- Steps that change the nodes of a document. -/
abbrev Merge := StateT Nodes (Except ReadError)

namespace Nodes

/-- The number of merge keys in a document. -/
def mergeCount (nodes : Nodes) : Nat :=
  nodes.foldl (fun count node =>
    count + (node.entries.filter fun entry => (nodes.node entry.1).tag == .merge).length) 0

/-- The first value under a merge key among entries, and the other entries. -/
def takeMerge (nodes : Nodes) : List (NodeId × NodeId) →
    Option (NodeId × List (NodeId × NodeId))
  | [] => none
  | (key, value) :: rest =>
    if (nodes.node key).tag == .merge then some (value, rest)
    else (takeMerge nodes rest).map fun (source, others) => (source, (key, value) :: others)

/-- Gives a mapping other entries. -/
def setEntries (nodes : Nodes) (id : NodeId) (entries : List (NodeId × NodeId)) : Nodes :=
  nodes.setIfInBounds id (.mapping (nodes.node id).tag entries)

/-- Makes the keys `=` among entries stand for their text. -/
def settleKeys (nodes : Nodes) (entries : List (NodeId × NodeId)) : Nodes :=
  entries.foldl (fun nodes (key, _) =>
    let node := nodes.node key
    if node.tag == .standard then nodes.setIfInBounds key (node.withTag .text) else nodes) nodes

/-- Makes the merges of a mapping, before whose own entries the entries `merged` are to be put. The
mapping may be among its own sources, and then brings what it holds so far. -/
def mergeAfter (id : NodeId) (merged : List (NodeId × NodeId)) : Nat → Merge Unit
  | 0 => throw .malformed
  | fuel + 1 => do
    let entries := ((← get).node id).entries
    match takeMerge (← get) entries with
    | none =>
      modify (·.settleKeys entries)
      if !merged.isEmpty then modify (·.setEntries id (merged ++ entries))
    | some (source, others) =>
      modify (·.setEntries id others)
      let brought (other : NodeId) : Merge (List (NodeId × NodeId)) := do
        if !((← get).node other).isMapping then throw .malformed
        mergeAfter other [] fuel
        return ((← get).node other).entries
      let new ← match (← get).node source with
        | .list _ items => do
          let groups ← items.mapM brought
          pure groups.reverse.flatten
        | _ => brought source
      mergeAfter id (merged ++ new) fuel

/-- Makes the merges of a mapping of a document with `count` merge keys. Every step does away with
one of them. -/
def merge (count : Nat) (id : NodeId) : Merge Unit :=
  mergeAfter id [] (count + 1)

end Nodes

end ExternalFields.Yaml
