import ExternalFields.Text.Basic
import ExternalFields.Yaml.Tag

/-!
# Nodes

A document as a graph of nodes, each with the kind of data it is to become. Nodes name each other by
number, so that the node an alias stands for is one and the same wherever it is held, even within
itself.

* **`Node`**: the nodes
* **`Graph`**: a document
-/

namespace ExternalFields.Yaml

/-- The number of a node. -/
abbrev NodeId := Nat

/-- A node of a document, which holds other nodes by number. -/
inductive Node where
  | scalar (tag : Tag) (text : Text)
  | list (tag : Tag) (items : List NodeId)
  | mapping (tag : Tag) (entries : List (NodeId × NodeId))
  deriving DecidableEq, Repr, Inhabited

namespace Node

/-- An empty plain scalar. -/
def empty : Node := .scalar .null []

/-- The kind of data that a node is to become. -/
def tag : Node → Tag
  | .scalar tag _ | .list tag _ | .mapping tag _ => tag

/-- A node that is to become another kind of data. -/
def withTag (tag : Tag) : Node → Node
  | .scalar _ text => .scalar tag text
  | .list _ items => .list tag items
  | .mapping _ entries => .mapping tag entries

/-- Whether a node holds entries. -/
def isMapping : Node → Bool
  | .mapping .. => true
  | _ => false

/-- The entries of a mapping. -/
def entries : Node → List (NodeId × NodeId)
  | .mapping _ entries => entries
  | _ => []

end Node

/-- The nodes of a document by number. -/
abbrev Nodes := Array Node

/-- The node of a number. -/
def Nodes.node (nodes : Nodes) (id : NodeId) : Node :=
  nodes.getD id .empty

/-- The nodes of a document, the one that holds the others, and the order in which they end: a node
ends after what it holds, unless it is held by that itself. -/
structure Graph where
  nodes : Nodes
  root : NodeId
  order : List NodeId
  deriving Repr

end ExternalFields.Yaml
