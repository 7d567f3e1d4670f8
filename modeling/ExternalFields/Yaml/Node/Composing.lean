import ExternalFields.Yaml.Node.Basic
import ExternalFields.Yaml.Token.Basic

/-!
# Composing nodes

The tokens of a document put together. Each collection is a sequence of entries between its start
and its end; the items of a list may stand at the column of the key they belong to, without a start
and an end. What is left out between indicators is an empty plain scalar.

* **`Composer`**: the tokens left, and the nodes so far
* **`Graph.ofTokens`**: the nodes of a document, if it holds any
-/

namespace ExternalFields.Yaml

/-- So many levels of nodes can be composed. -/
def deepestNode : Nat := 490

/-- What is left of the tokens and the fault after them, how many levels nodes can still be nested,
the nodes so far and those of them that have ended, latest first, the nodes with an anchor, and the
shorthands of tags. -/
structure Composer where
  tokens : List Token
  fault : Option ReadError
  room : Nat := deepestNode
  nodes : Nodes := #[]
  ended : List NodeId := []
  anchors : List (String × NodeId) := []
  handles : List (String × String) := []

namespace Composer

/-- Steps through the tokens of a document. -/
abbrev Compose := StateT Composer (Except ReadError)

/-- Fails, the tokens being those of no document. -/
def fail {α : Type} : Compose α := throw .malformed

/-- The next token. -/
def peek : Compose Token := do
  let composer ← get
  match composer.tokens, composer.fault with
  | token :: _, _ => return token
  | [], some fault => throw fault
  | [], none => return .streamEnd

/-- Goes on by one token. -/
def skip : Compose Unit :=
  modify fun composer => { composer with tokens := composer.tokens.drop 1 }

/-- Goes on by one token, which must be this one. -/
def expect (token : Token) : Compose Unit := do
  if (← peek) == token then skip else fail

/-- Whether the next token is one of these. -/
def standsAt (tokens : List Token) : Compose Bool :=
  return tokens.contains (← peek)

/-- Composes what stands one level further down. -/
def within {α : Type} (steps : Compose α) : Compose α := do
  match (← get).room with
  | 0 => throw .tooDeep
  | room + 1 =>
    modify fun composer => { composer with room }
    let result ← steps
    modify fun composer => { composer with room := room + 1 }
    return result

/-- The number of a new node. -/
def begin : Compose NodeId := do
  let id := (← get).nodes.size
  modify fun composer => { composer with nodes := composer.nodes.push .empty }
  return id

/-- States what a node is, once it has ended. -/
def finish (id : NodeId) (node : Node) : Compose Unit :=
  modify fun composer => { composer with
    nodes := composer.nodes.setIfInBounds id node
    ended := id :: composer.ended }

/-- A new node that has ended. -/
def add (node : Node) : Compose NodeId := do
  let id ← begin
  finish id node
  return id

/-- An empty plain scalar. -/
def emptyScalar : Compose NodeId := add .empty

/-! ## Properties of nodes -/

/-- The anchor that stands here, if there is one. -/
def anchor : Compose (Option String) := do
  match ← peek with
  | .anchor name =>
    skip
    return some name
  | _ => return none

/-- A tag as it is written: the shorthand, if it uses one, and the rest of it. -/
abbrev WrittenTag := Option String × String

/-- The tag that stands here, if there is one. -/
def writtenTag : Compose (Option WrittenTag) := do
  match ← peek with
  | .tag handle? suffix =>
    skip
    return some (handle?, suffix)
  | _ => return none

/-- A tag with its shorthand resolved. -/
def resolve : Option WrittenTag → Compose (Option String)
  | none => return none
  | some (none, suffix) => return some suffix
  | some (some handle, suffix) => do
    match (← get).handles.lookup handle with
    | some uri => return some (uri ++ suffix)
    | none => fail

/-- Anchor and tag in either order. -/
def properties : Compose (Option String × Option String) := do
  match ← anchor with
  | some name => return (some name, ← resolve (← writtenTag))
  | none =>
    match ← writtenTag with
    | some tag =>
      let anchor? ← anchor
      return (anchor?, ← resolve (some tag))
    | none => return (none, none)

/-- The kind of a scalar: a tag decides it, otherwise a plain scalar is resolved and any other is
text. The tag `!` asks for resolution. -/
def scalarTag (tag? : Option String) (isPlain : Bool) (text : Text) : Tag :=
  match tag? with
  | some "!" => Tag.ofPlain text.chars
  | some uri => Tag.ofUri uri
  | none => if isPlain then Tag.ofPlain text.chars else .text

/-- The kind of a collection: a tag decides it. -/
def collectionTag (tag? : Option String) (usual : Tag) : Tag :=
  match tag? with
  | some "!" | none => usual
  | some uri => Tag.ofUri uri

/-- Remembers the node of an anchor. No two nodes have the same one. -/
def setAnchor (id : NodeId) : Option String → Compose Unit
  | none => return ()
  | some name => do
    if ((← get).anchors.lookup name).isSome then fail
    modify fun composer => { composer with anchors := (name, id) :: composer.anchors }

/-- The node that an alias stands for, which may still be being composed. -/
def aliased (name : String) : Compose NodeId := do
  match (← get).anchors.lookup name with
  | some id => return id
  | none => fail

/-! ## Nodes -/

mutual

/-- A node. Block collections may start only where `inBlock` says so, and a list without a start
only where `openList` does. -/
def node (inBlock openList : Bool) : Nat → Compose NodeId
  | 0 => fail
  | fuel + 1 => do
    match ← peek with
    | .alias name =>
      skip
      aliased name
    | _ =>
      let (anchor?, tag?) ← properties
      discard peek
      let id ← begin
      setAnchor id anchor?
      finish id
        (← within (content inBlock openList (anchor?.isSome || tag?.isSome) tag? fuel))
      return id

/-- The content of a node after its properties. It may be left out if there are any. -/
def content (inBlock openList hasProperties : Bool) (tag? : Option String) : Nat → Compose Node
  | 0 => fail
  | fuel + 1 => do
    let listTag := collectionTag tag? .list
    let mappingTag := collectionTag tag? .mapping
    match ← peek with
    | .scalar text isPlain =>
      skip
      return .scalar (scalarTag tag? isPlain text) text
    | .flowListStart =>
      skip
      return .list listTag (← flowItems true fuel)
    | .flowMappingStart =>
      skip
      return .mapping mappingTag (← flowEntries true fuel)
    | token =>
      if token == .blockEntry && openList then
        return .list listTag (← openItems fuel)
      else if token == .blockListStart && inBlock then
        skip
        return .list listTag (← blockItems fuel)
      else if token == .blockMappingStart && inBlock then
        skip
        return .mapping mappingTag (← blockEntries fuel)
      else if hasProperties then
        return .scalar (scalarTag tag? true []) []
      else fail

/-- A node, or an empty scalar before one of the tokens that end it. -/
def nodeUnless (ends : List Token) (inBlock openList : Bool) : Nat → Compose NodeId
  | 0 => fail
  | fuel + 1 => do
    if ← standsAt ends then emptyScalar else node inBlock openList fuel

/-- The items of a block list up to its end. -/
def blockItems : Nat → Compose (List NodeId)
  | 0 => fail
  | fuel + 1 => do
    match ← peek with
    | .blockEntry =>
      skip
      let item ← nodeUnless [.blockEntry, .blockEnd] true false fuel
      return item :: (← blockItems fuel)
    | _ =>
      expect .blockEnd
      return []

/-- The items of a list at the column of its key, which ends where no dash follows. -/
def openItems : Nat → Compose (List NodeId)
  | 0 => fail
  | fuel + 1 => do
    match ← peek with
    | .blockEntry =>
      skip
      let item ← nodeUnless [.blockEntry, .key, .value, .blockEnd] true false fuel
      return item :: (← openItems fuel)
    | _ => return []

/-- The value after a key, an empty scalar if there is none. -/
def valueUnless (ends : List Token) (inBlock openList : Bool) : Nat → Compose NodeId
  | 0 => fail
  | fuel + 1 => do
    match ← peek with
    | .value =>
      skip
      nodeUnless ends inBlock openList fuel
    | _ => emptyScalar

/-- The entries of a block mapping up to its end. -/
def blockEntries : Nat → Compose (List (NodeId × NodeId))
  | 0 => fail
  | fuel + 1 => do
    match ← peek with
    | .key =>
      skip
      let ends := [Token.key, .value, .blockEnd]
      let key ← nodeUnless ends true true fuel
      let value ← valueUnless ends true true fuel
      return (key, value) :: (← blockEntries fuel)
    | _ =>
      expect .blockEnd
      return []

/-- The items of a flow list up to its end. A key in it makes a mapping of one entry. -/
def flowItems (isFirst : Bool) : Nat → Compose (List NodeId)
  | 0 => fail
  | fuel + 1 => do
    if (← peek) == .flowListEnd then
      skip
      return []
    if !isFirst then expect .flowEntry
    match ← peek with
    | .key =>
      let id ← begin
      skip
      let entry ← within do
        let key ← nodeUnless [.value, .flowEntry, .flowListEnd] false false fuel
        let value ← valueUnless [.flowEntry, .flowListEnd] false false fuel
        return (key, value)
      finish id (.mapping .mapping [entry])
      return id :: (← flowItems false fuel)
    | .flowListEnd =>
      skip
      return []
    | _ =>
      let item ← node false false fuel
      return item :: (← flowItems false fuel)

/-- The entries of a flow mapping up to its end. A node without a key indicator has no value. -/
def flowEntries (isFirst : Bool) : Nat → Compose (List (NodeId × NodeId))
  | 0 => fail
  | fuel + 1 => do
    if (← peek) == .flowMappingEnd then
      skip
      return []
    if !isFirst then expect .flowEntry
    match ← peek with
    | .key =>
      skip
      let key ← nodeUnless [.value, .flowEntry, .flowMappingEnd] false false fuel
      let value ← valueUnless [.flowEntry, .flowMappingEnd] false false fuel
      return (key, value) :: (← flowEntries false fuel)
    | .flowMappingEnd =>
      skip
      return []
    | _ =>
      let key ← node false false fuel
      let value ← emptyScalar
      return (key, value) :: (← flowEntries false fuel)

end

/-! ## Documents -/

/-- The shorthands that every document knows. -/
def coreHandles : List (String × String) := [("!", "!"), ("!!", Tag.coreSpace)]

/-- The directives before a document: the shorthands they declare. There is at most one version,
of major number one, and one meaning for each shorthand. -/
def directives (hasVersion : Bool) (handles : List (String × String)) :
    Nat → Compose (List (String × String))
  | 0 => fail
  | fuel + 1 => do
    match ← peek with
    | .directive (.version major) =>
      if hasVersion || major != 1 then fail
      skip
      directives true handles fuel
    | .directive (.handle handle uri) =>
      if (handles.lookup handle).isSome then fail
      skip
      directives hasVersion ((handle, uri) :: handles) fuel
    | .directive .other =>
      skip
      directives hasVersion handles fuel
    | _ => return handles ++ coreHandles

/-- Goes on over the ends of documents. -/
def documentEnds : Nat → Compose Unit
  | 0 => return ()
  | fuel + 1 => do
    if (← peek) == .documentEnd then
      skip
      documentEnds fuel

/-- The node after the start of a document, an empty scalar if there is nothing else. -/
def documentContent (fuel : Nat) : Compose NodeId := do
  match ← peek with
  | .documentStart | .documentEnd | .directive _ | .streamEnd => emptyScalar
  | _ => node true false fuel

/-- The start of a document that is marked as one. -/
def documentStart (fuel : Nat) : Compose Unit := do
  let handles ← directives false [] fuel
  expect .documentStart
  modify fun composer => { composer with handles }

/-- The node of the only document, nothing if there is none. -/
def document (fuel : Nat) : Compose (Option NodeId) := do
  let root? ← match ← peek with
    | .streamEnd => pure none
    | .documentStart | .directive _ => do
      documentStart fuel
      some <$> documentContent fuel
    | _ => do
      modify fun composer => { composer with handles := coreHandles }
      some <$> node true false fuel
  documentEnds fuel
  match ← peek with
  | .streamEnd => return root?
  | _ =>
    documentStart fuel
    fail

end Composer

/-- The nodes of a document, nothing if there is none. Another document after it is an error. A node
takes at most a few steps per token. -/
def Graph.ofTokens (stream : TokenStream) : Except ReadError (Option Graph) := do
  let start : Composer := { tokens := stream.tokens, fault := stream.fault }
  let (root?, composer) ← (Composer.document (4 * stream.tokens.length + 8)).run start
  return root?.map fun root => ⟨composer.nodes, root, composer.ended.reverse⟩

end ExternalFields.Yaml
