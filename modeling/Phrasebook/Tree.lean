import Phrasebook.Fields

/-!
# File trees

A tree of directories and files. A place in it is the list of names that leads there from the root.

## Contents
- `Tree`: the type
- `get?`, `put`, `remove`: what stands at a place, and changing it
- `nodes`, `files`: every directory and file with its place
-/

namespace Phrasebook

/-- A file with its bytes, or a directory with its entries in the order in which it lists them. -/
inductive Tree where
  | file (bytes : ByteArray)
  | dir (entries : List (String × Tree))
  deriving Inhabited

namespace Tree

/-- The names that lead from the root of a tree to a place in it. -/
abbrev Place := List String

/-- The subtree at a place. -/
def get? : Place → Tree → Option Tree
  | [], t => some t
  | name :: rest, dir entries => (entries.lookup name).bind (get? rest)
  | _ :: _, file _ => none

/-- Puts a subtree at a place. Missing directories on the way are created; nothing changes when a
file stands in the way. -/
def put (new : Tree) : Place → Tree → Tree
  | [], _ => new
  | name :: rest, dir entries =>
    dir (Fields.putIn name (put new rest ((entries.lookup name).getD (dir []))) entries)
  | _ :: _, file bytes => file bytes

/-- Removes the subtree at a place, if there is one. -/
def remove : Place → Tree → Tree
  | [], t => t
  | [name], dir entries => dir (entries.filter (·.1 ≠ name))
  | name :: rest, dir entries =>
    match entries.lookup name with
    | none => dir entries
    | some t => dir (Fields.putIn name (remove rest t) entries)
  | _ :: _, file bytes => file bytes

/-- Whether a file stands on the way to a place. -/
def isBlocked : Place → Tree → Bool
  | [], _ => false
  | name :: rest, dir entries => isBlocked rest ((entries.lookup name).getD (dir []))
  | _ :: _, file _ => true

mutual

/-- The directories and files of a tree with their places, a directory before its entries; a directory
has no bytes. The names on the way to the tree are put in front. -/
def nodesAt (place : Place) : Tree → List (Place × Option ByteArray)
  | file bytes => [(place, some bytes)]
  | dir entries => (place, none) :: nodesIn place entries

/-- The directories and files among a directory's entries with their places. -/
def nodesIn (place : Place) : List (String × Tree) → List (Place × Option ByteArray)
  | [] => []
  | (name, t) :: rest => nodesAt (place ++ [name]) t ++ nodesIn place rest

end

/-- The directories and files of a tree with their places. -/
def nodes (t : Tree) : List (Place × Option ByteArray) := nodesAt [] t

/-- The files of a tree with their places. -/
def files (t : Tree) : List (Place × ByteArray) :=
  t.nodes.filterMap fun (place, bytes?) => bytes?.map (place, ·)

end Tree

end Phrasebook
