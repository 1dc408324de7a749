import Phrasebook.Yaml.Node
import Phrasebook.Yaml.Scalar

/-!
# YAML documents

The value of a document, as far as a reader of settings needs it: every part of it has to make sense,
but only the pairs of an outermost mapping are given back. Collections are built after what they are
part of, in the order in which they are met, so the first fault in that order is the one reported.

## Contents
- `Build`: building the values of a graph of nodes
- `Build.flatten`: mappings that are merged into others
- `Build.value`, `Build.parts`: a value, and the parts of a collection
- `Document`, `Document.read`: what a text comes to
-/

namespace Phrasebook.Yaml

/-- A value that was built: a scalar, or nothing for a collection. -/
abbrev Built := Option Scalar

/-- What is known while values are built. -/
structure Builder where
  /-- The nodes of the document. -/
  nodes : Array Node
  /-- The values built so far. -/
  built : List (NodeId × Built) := []
  /-- The collections whose parts are still to be built, first one first. -/
  waiting : List NodeId := []

/-- A computation that builds values. -/
abbrev Build (α : Type) := StateT Builder (Except Fault) α

namespace Build

/-- The node of a number. -/
def node (id : NodeId) : Build Node := do
  match (← get).nodes[id]? with
  | some node => return node
  | none => throw .malformed

/-- The pairs of a mapping. -/
def pairs (id : NodeId) : Build (List (NodeId × NodeId)) := do
  match (← node id).content with
  | .mapping pairs => return pairs
  | _ => throw .malformed

/-- Sets the pairs of a mapping. -/
def setPairs (id : NodeId) (pairs : List (NodeId × NodeId)) : Build Unit :=
  modify fun s =>
    { s with nodes := s.nodes.modify id fun node => { node with content := .mapping pairs } }

/-- Makes a node a text. -/
def makeText (id : NodeId) : Build Unit :=
  modify fun s => { s with nodes := s.nodes.modify id fun node => { node with type := .text } }

/-! ## Merging -/

/-- The pairs that a value contributes where it is merged: those of a mapping, or those of the
mappings of a sequence, the last one first. -/
def mergedPairs (flatten : NodeId → Build Unit) (id : NodeId) : Build (List (NodeId × NodeId)) := do
  match (← node id).content with
  | .mapping _ =>
    flatten id
    pairs id
  | .sequence items =>
    let parts ← items.mapM fun item => do
      match (← node item).content with
      | .mapping _ =>
        flatten item
        pairs item
      | _ => throw .malformed
    return parts.reverse.flatten
  | .scalar _ => throw .malformed

/-- Goes through the pairs of a mapping from an index on. Pairs with a merging key are taken out and
what they contribute is collected; a key that stands for the default value becomes a text. The second
argument bounds the number of pairs. -/
def flattenFrom (flatten : NodeId → Build Unit) (id : NodeId) :
    Nat → Nat → List (NodeId × NodeId) → Build Unit
  | 0, _, merged => do setPairs id (merged ++ (← pairs id))
  | count + 1, index, merged => do
    let current ← pairs id
    match current[index]? with
    | none => setPairs id (merged ++ current)
    | some (key, value) =>
      match (← node key).type with
      | .merge =>
        setPairs id (current.eraseIdx index)
        let more ← mergedPairs flatten value
        flattenFrom flatten id count index (merged ++ more)
      | .default =>
        makeText key
        flattenFrom flatten id count (index + 1) merged
      | _ => flattenFrom flatten id count (index + 1) merged

/-- Puts merged pairs in front of a mapping's own. The first argument bounds the depth of merging;
each level takes a merging key out of the document for good. -/
def flatten : Nat → NodeId → Build Unit
  | 0, _ => throw .malformed
  | depth + 1, id => do flattenFrom (flatten depth) id (← pairs id).length 0 []

/-! ## Values -/

/-- The text of a scalar, or of the default value of a mapping. The first argument bounds the depth. -/
def scalarText : Nat → NodeId → Build String
  | 0, _ => throw .malformed
  | depth + 1, id => do
    match (← node id).content with
    | .scalar text => return text
    | .sequence _ => throw .malformed
    | .mapping pairs =>
      let isDefault ← pairs.filterM fun pair => return (← node pair.1).type = .default
      match isDefault with
      | [] => throw .malformed
      | (_, value) :: _ => scalarText depth value

/-- Whether a node is a scalar. -/
def isScalarNode (id : NodeId) : Build Bool := do
  match (← node id).content with
  | .scalar _ => return true
  | _ => return false

/-- Builds a value. A mapping with a default value counts as that one, but not as a date. A collection
has no parts at first; it is put at the end of those that wait for them. A node is built once. -/
def value (id : NodeId) : Build Built := do
  let s ← get
  match s.built.lookup id with
  | some built => return built
  | none =>
    let type := (← node id).type
    match type with
    | .sequence | .mapping | .set | .orderedMap | .pairs =>
      set { s with built := (id, none) :: s.built, waiting := s.waiting ++ [id] }
      return none
    | _ =>
      let isScalar := (Scalar.ofText? type "").isSome
      unless isScalar do throw .malformed
      let text ← scalarText (s.nodes.size + 1) id
      if type = .timestamp && !(← isScalarNode id) then throw .wrongKind
      match Scalar.ofText? type text with
      | none => throw .malformed
      | some (.error fault) => throw fault
      | some (.ok scalar) =>
        modify fun s => { s with built := (id, some scalar) :: s.built }
        return some scalar

/-- Builds a key, which has to be a scalar. -/
def key (id : NodeId) : Build Scalar := do
  match ← value id with
  | some scalar => return scalar
  | none => throw .malformed

/-- The one pair of a mapping. -/
def onlyPair (id : NodeId) : Build (NodeId × NodeId) := do
  match ← pairs id with
  | [pair] => return pair
  | _ => throw .malformed

/-- Builds the parts of a collection. -/
def parts (depth : Nat) (id : NodeId) : Build Unit := do
  let node ← node id
  match node.type, node.content with
  | .sequence, .sequence items => for item in items do let _ ← value item
  | .mapping, .mapping _ | .set, .mapping _ =>
    flatten depth id
    for (k, v) in ← pairs id do
      let _ ← key k
      let _ ← value v
  | .orderedMap, .sequence items | .pairs, .sequence items =>
    for item in items do
      let (k, v) ← onlyPair item
      let _ ← value k
      let _ ← value v
  | _, _ => throw .malformed

/-- Builds the parts of the collections that wait, and of those that come up meanwhile. The first
argument bounds their number. -/
def finish (depth : Nat) : Nat → Build Unit
  | 0 => throw .malformed
  | fuel + 1 => do
    let s ← get
    match s.waiting with
    | [] => return ()
    | id :: rest =>
      set { s with waiting := rest }
      parts depth id
      finish depth fuel

end Build

/-! ## Documents -/

/-- What a document comes to. -/
inductive Document where
  /-- There is no document, or its value counts as nothing. -/
  | nothing
  /-- A mapping, with its keys and values in order. -/
  | mapping (pairs : List (Scalar × Built))
  /-- A value of any other kind. -/
  | other

namespace Document

/-- A pair of a mapping, with the node of its key. -/
structure Pair where
  /-- The node of the key. -/
  node : NodeId
  /-- The key. -/
  key : Scalar
  /-- What stands under the key. -/
  value : Built

/-- Adds a pair: in the place of one with the same key, which keeps its key, or at the end. One node is
one key. -/
def putPair (pair : Pair) : List Pair → List Pair
  | [] => [pair]
  | p :: rest =>
    if p.node = pair.node || p.key.same pair.key then { p with value := pair.value } :: rest
    else p :: putPair pair rest

/-- The number of pairs in all mappings of a document. -/
def pairCount (nodes : Array Node) : Nat :=
  nodes.foldl (fun n node => match node.content with
    | .mapping pairs => n + pairs.length
    | _ => n) 0

/-- Builds a document from its outermost node. -/
def build (root : NodeId) : Build Document := do
  let nodes := (← get).nodes
  let top ← Build.value root
  Build.finish (pairCount nodes + 1) (nodes.size + 1)
  match top with
  | some scalar => return if scalar.isFalse then .nothing else .other
  | none =>
    let node ← Build.node root
    match node.type, node.content with
    | _, .sequence items => return if items.isEmpty then .nothing else .other
    | .mapping, .mapping pairs =>
      let found ← pairs.foldlM (fun found pair => do
        return putPair ⟨pair.1, ← Build.key pair.1, ← Build.value pair.2⟩ found) []
      return if found.isEmpty then .nothing else .mapping (found.map fun p => (p.key, p.value))
    | _, .mapping pairs => return if pairs.isEmpty then .nothing else .other
    | _, .scalar _ => throw .malformed

/-- What a text comes to. -/
def ofStream (stream : Stream) : Except Fault Document :=
  match Graph.ofTokens (Token.scan stream) with
  | .error fault => .error fault
  | .ok none => .ok nothing
  | .ok (some graph) =>
    match (build graph.root).run { nodes := graph.nodes } with
    | .error fault => .error fault
    | .ok (document, _) => .ok document

/-- What the bytes of a file come to. -/
def read (bytes : ByteArray) : Except Fault Document :=
  match Stream.ofBytes bytes with
  | .error fault => .error fault
  | .ok stream => ofStream stream

end Document

end Phrasebook.Yaml
