import Phrasebook.Yaml.Token
import Phrasebook.Yaml.Type

/-!
# YAML nodes

A document as a graph of nodes. Nodes are numbered, and an alias is the number of the node that it
stands for, so that a node may be a part of several others and also of itself.

## Contents
- `Node`, `Graph`: nodes, and a document of them
- `Composer`, `Compose`: reading nodes off a list of tokens
- `Compose.node`: one node with all its parts
- `Graph.ofTokens`: a whole document
-/

namespace Phrasebook.Yaml

/-- The number of a node. -/
abbrev NodeId := Nat

/-- What a node holds. -/
inductive Content where
  | scalar (text : String)
  | sequence (items : List NodeId)
  | mapping (pairs : List (NodeId × NodeId))
  deriving Inhabited

/-- A node: its type and what it holds. -/
structure Node where
  type : ValueType
  content : Content

/-- A document: its nodes by number, and the number of the outermost one. -/
structure Graph where
  nodes : Array Node
  root : NodeId

/-- What is known while nodes are read. -/
structure Composer where
  /-- The tokens left. -/
  tokens : List Token
  /-- The nodes read so far. -/
  nodes : Array Node := #[]
  /-- The nodes that anchors name. -/
  anchors : List (String × NodeId) := []
  /-- What the handles of tags stand for. -/
  handles : List (String × String) := []
  /-- The number of collections that are open. -/
  depth : Nat := 0

/-- The number of collections that may be open around a node. -/
def maxDepth : Nat := 487

/-- A computation that reads nodes. -/
abbrev Compose (α : Type) := StateT Composer (Except Fault) α

/-- The handles that every document has. -/
def standardHandles : List (String × String) := [("!", "!"), ("!!", ValueType.tagFront)]

namespace Compose

/-! ## Tokens -/

/-- The next token. Where the text cannot be read beyond, its fault is raised. -/
def peek : Compose (Option Token) := do
  match (← get).tokens.head? with
  | some (.broken fault) => throw fault
  | next => return next

/-- Goes past the next token. -/
def advance : Compose Unit := modify fun s => { s with tokens := s.tokens.drop 1 }

/-- Refuses the tokens. -/
def refuse {α : Type} : Compose α := throw .malformed

/-- Whether the next token is one of some. -/
def nextIs (tokens : List Token) : Compose Bool := return (← peek).any tokens.contains

/-! ## Properties -/

/-- The anchor and the tag in front of a node. -/
structure Properties where
  anchor : Option String := none
  tag : Option String := none

/-- The whole tag that a handle and a suffix stand for. -/
def wholeTag (handle : Option String) (suffix : String) : Compose String := do
  match handle with
  | none => return suffix
  | some handle =>
    match (← get).handles.lookup handle with
    | none => throw .malformed
    | some front => return front ++ suffix

/-- Reads the anchor and the tag in front of a node, in either order. -/
def properties : Compose Properties := do
  let readTag : Compose (Option (Option String × String)) := do
    match ← peek with
    | some (.tag handle suffix) => advance; return some (handle, suffix)
    | _ => return none
  let readAnchor : Compose (Option String) := do
    match ← peek with
    | some (.anchor name) => advance; return some name
    | _ => return none
  let early ← readAnchor
  let tag ← readTag
  let anchor ← if early.isNone && tag.isSome then readAnchor else pure early
  match tag with
  | none => return { anchor }
  | some (handle, suffix) => return { anchor, tag := some (← wholeTag handle suffix) }

/-! ## Nodes -/

/-- Adds a node and files it under its anchor. -/
def add (anchor : Option String) (node : Node) : Compose NodeId := do
  let s ← get
  let id := s.nodes.size
  set { s with
    nodes := s.nodes.push node
    anchors := anchor.elim s.anchors fun name => (name, id) :: s.anchors }
  return id

/-- Sets what a node holds. -/
def fill (id : NodeId) (content : Content) : Compose Unit :=
  modify fun s => { s with nodes := s.nodes.modify id fun node => { node with content } }

/-- The type of a scalar: the one that its tag names, or else the one that its form gives it. -/
def scalarType (tag : Option String) (text : String) (plain : Bool) : ValueType :=
  match tag with
  | none => if plain then .ofPlain text else .text
  | some "!" => .ofPlain text
  | some tag => .ofTag tag

/-- The type of a collection: the one that its tag names, or else the usual one. -/
def collectionType (tag : Option String) (usual : ValueType) : ValueType :=
  match tag with
  | none | some "!" => usual
  | some tag => .ofTag tag

/-- Reads the parts of a collection, which is open meanwhile. -/
def inside {α : Type} (parts : Compose α) : Compose α := do
  modify fun s => { s with depth := s.depth + 1 }
  let result ← parts
  modify fun s => { s with depth := s.depth - 1 }
  return result

/-- Adds a scalar of which nothing is written. -/
def emptyScalar : Compose NodeId := add none ⟨scalarType none "" true, .scalar ""⟩

mutual

/-- Reads a node. In a block it may be a block collection; where a mapping's key or value stands, the
elements of a sequence need no deeper indentation. The first argument bounds the number of calls. -/
def node (block hanging : Bool) : Nat → Compose NodeId
  | 0 => refuse
  | fuel + 1 => do
    if maxDepth < (← get).depth then throw .tooDeep
    if let some (.alias name) ← peek then
      advance
      match (← get).anchors.lookup name with
      | none => throw .malformed
      | some id => return id
    else
      let p ← properties
      let next ← peek
      let anchors := (← get).anchors
      if p.anchor.any fun name => (anchors.lookup name).isSome then throw .malformed
      let collect (usual : ValueType) (content : Compose Content) : Compose NodeId := do
        let id ← add p.anchor ⟨collectionType p.tag usual, .sequence []⟩
        fill id (← inside content)
        return id
      match next with
      | some (.scalar text plain) =>
        advance
        add p.anchor ⟨scalarType p.tag text plain, .scalar text⟩
      | some .flowSequenceStart =>
        advance
        collect .sequence (.sequence <$> flowItems true fuel)
      | some .flowMappingStart =>
        advance
        collect .mapping (.mapping <$> flowPairs true fuel)
      | some token =>
        if hanging && token = .blockEntry then
          collect .sequence (.sequence <$> hangingItems fuel)
        else if block && token = .blockSequenceStart then
          advance
          collect .sequence (.sequence <$> blockItems fuel)
        else if block && token = .blockMappingStart then
          advance
          collect .mapping (.mapping <$> blockPairs fuel)
        else if p.anchor.isSome || p.tag.isSome then
          add p.anchor ⟨scalarType p.tag "" true, .scalar ""⟩
        else refuse
      | none => refuse

/-- Reads a node, or an empty scalar where one of some tokens follows. -/
def nodeUnless (stops : List Token) (block hanging : Bool) : Nat → Compose NodeId
  | 0 => refuse
  | fuel + 1 => do
    if ← nextIs stops then emptyScalar else node block hanging fuel

/-- Reads the elements of a block sequence up to its end. -/
def blockItems : Nat → Compose (List NodeId)
  | 0 => refuse
  | fuel + 1 => do
    match ← peek with
    | some .blockEntry =>
      advance
      let item ← nodeUnless [.blockEntry, .blockEnd] true false fuel
      return item :: (← blockItems fuel)
    | some .blockEnd => advance; return []
    | _ => refuse

/-- Reads the elements of a block sequence that has no end of its own. -/
def hangingItems : Nat → Compose (List NodeId)
  | 0 => refuse
  | fuel + 1 => do
    match ← peek with
    | some .blockEntry =>
      advance
      let item ← nodeUnless [.blockEntry, .key, .value, .blockEnd] true false fuel
      return item :: (← hangingItems fuel)
    | _ => return []

/-- Reads a value if its mark follows, and an empty scalar otherwise. -/
def valueUnless (stops : List Token) (block hanging : Bool) : Nat → Compose NodeId
  | 0 => refuse
  | fuel + 1 => do
    if ← nextIs [.value] then
      advance
      nodeUnless stops block hanging fuel
    else emptyScalar

/-- Reads the pairs of a block mapping up to its end. -/
def blockPairs : Nat → Compose (List (NodeId × NodeId))
  | 0 => refuse
  | fuel + 1 => do
    match ← peek with
    | some .key =>
      advance
      let key ← nodeUnless [.key, .value, .blockEnd] true true fuel
      let value ← valueUnless [.key, .value, .blockEnd] true true fuel
      return (key, value) :: (← blockPairs fuel)
    | some .blockEnd => advance; return []
    | _ => refuse

/-- Reads the elements of a flow sequence up to its end; a pair among them is a mapping of its own. -/
def flowItems (first : Bool) : Nat → Compose (List NodeId)
  | 0 => refuse
  | fuel + 1 => do
    if ← nextIs [.flowSequenceEnd] then
      advance
      return []
    unless first do
      if ← nextIs [.flowEntry] then advance else refuse
    if ← nextIs [.key] then
      advance
      let id ← add none ⟨.mapping, .mapping []⟩
      let key ← nodeUnless [.value, .flowEntry, .flowSequenceEnd] false false fuel
      let value ← valueUnless [.flowEntry, .flowSequenceEnd] false false fuel
      fill id (.mapping [(key, value)])
      return id :: (← flowItems false fuel)
    else if ← nextIs [.flowSequenceEnd] then
      advance
      return []
    else
      let item ← node false false fuel
      return item :: (← flowItems false fuel)

/-- Reads the pairs of a flow mapping up to its end. -/
def flowPairs (first : Bool) : Nat → Compose (List (NodeId × NodeId))
  | 0 => refuse
  | fuel + 1 => do
    if ← nextIs [.flowMappingEnd] then
      advance
      return []
    unless first do
      if ← nextIs [.flowEntry] then advance else refuse
    if ← nextIs [.key] then
      advance
      let key ← nodeUnless [.value, .flowEntry, .flowMappingEnd] false false fuel
      let value ← valueUnless [.flowEntry, .flowMappingEnd] false false fuel
      return (key, value) :: (← flowPairs false fuel)
    else if ← nextIs [.flowMappingEnd] then
      advance
      return []
    else
      let key ← node false false fuel
      let value ← emptyScalar
      return (key, value) :: (← flowPairs false fuel)

end

/-! ## Documents -/

/-- The handles that directives set up on top of those that every document has. -/
def withStandard (handles : List (String × String)) : List (String × String) :=
  handles ++ standardHandles

/-- Reads the directives of a document; whether a version was given, and the handles set up. The
first argument bounds their number. -/
def directives (versioned : Bool) (handles : List (String × String)) :
    Nat → Compose (List (String × String))
  | 0 => refuse
  | fuel + 1 => do
    match ← peek with
    | some (.directive (.version major _)) =>
      if versioned || major ≠ 1 then throw .malformed
      advance
      directives true handles fuel
    | some (.directive (.handle handle front)) =>
      if (handles.lookup handle).isSome then throw .malformed
      advance
      directives versioned ((handle, front) :: handles) fuel
    | some (.directive .other) =>
      advance
      directives versioned handles fuel
    | _ => return handles

/-- Reads the outermost node of a document, if there is a document. -/
def document (fuel : Nat) : Compose (Option NodeId) := do
  match ← peek with
  | some .streamEnd => return none
  | some (.directive _) | some .documentStart =>
    let handles ← directives false [] fuel
    modify fun s => { s with handles := withStandard handles }
    unless ← nextIs [.documentStart] do refuse
    advance
    let stops : Bool := match ← peek with
      | some (.directive _) | some .documentStart | some .documentEnd | some .streamEnd => true
      | _ => false
    if stops then some <$> emptyScalar else some <$> node true false fuel
  | _ =>
    modify fun s => { s with handles := standardHandles }
    some <$> node true false fuel

/-- Skips the marks of a document's end. The first argument bounds their number. -/
def skipEnds : Nat → Compose Unit
  | 0 => refuse
  | fuel + 1 => do
    if ← nextIs [.documentEnd] then
      advance
      skipEnds fuel

/-- Refuses a second document, which is looked through up to its start. -/
def refuseDocument (fuel : Nat) : Compose (Option NodeId) := do
  let _ ← directives false [] fuel
  let _ ← peek
  refuse

/-- Reads the one document of a text, if there is one. -/
def onlyDocument (fuel : Nat) : Compose (Option NodeId) := do
  let root ← document fuel
  if root.isSome then skipEnds fuel
  if ← nextIs [.streamEnd] then return root else refuseDocument fuel

end Compose

/-- The document that a list of tokens makes, if there is one. -/
def Graph.ofTokens (tokens : List Token) : Except Fault (Option Graph) :=
  match (Compose.onlyDocument (4 * tokens.length + 8)).run { tokens } with
  | .error fault => .error fault
  | .ok (root, s) => .ok (root.map fun root => ⟨s.nodes, root⟩)

end Phrasebook.Yaml
