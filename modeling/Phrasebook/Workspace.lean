import Phrasebook.Path
import Phrasebook.Tree

/-!
# Workspaces

A file tree seen from a working directory. A path is followed name by name; each name but the last has
to be a directory's, and `..` leads back to the directory above. A path that is too long is not followed
at all, and one with a name that is too long only up to that name.

## Contents
- `Workspace`, `DiskFault`: the tree, and why an operation on it is refused
- `walk`, `locate`, `node`: from a path to a place and to what stands there
- `isFile`, `isDir`, `isOverlong`, `read`, `list`: looking
- `makeDir`, `makeDirs`, `write`, `delete`: changing
-/

namespace Phrasebook

/-- Why an operation on files is refused. -/
inductive DiskFault where
  | notFound
  | notDirectory
  | isDirectory
  | exists
  /-- The path, or a name in it, is too long. -/
  | nameTooLong
  /-- The path holds a null character. -/
  | nullInPath
  deriving DecidableEq, Repr

/-- A file tree and the place in it that relative paths start at. -/
structure Workspace where
  /-- The tree. -/
  tree : Tree
  /-- The working directory. -/
  base : Tree.Place
  deriving Inhabited

namespace Workspace

/-! ## Following a path -/

/-- Follows names from a place. What stands at the end need not exist, but all before it have to be
directories. -/
def walk (tree : Tree) : Tree.Place → List String → Except DiskFault Tree.Place
  | place, [] => .ok place
  | place, name :: rest =>
    match Tree.get? place tree with
    | some (.dir _) =>
      if Path.isLongName name then .error .nameTooLong
      else walk tree (if name = ".." then place.dropLast else place ++ [name]) rest
    | some (.file _) => .error .notDirectory
    | none => .error .notFound

/-- The place that a path names. -/
def locate (w : Workspace) (p : Path) : Except DiskFault Tree.Place :=
  if p.hasNull then .error .nullInPath
  else if p.isLong then .error .nameTooLong
  else walk w.tree (if p.root = .relative then w.base else []) p.parts

/-- What stands at the end of a path. -/
def node (w : Workspace) (p : Path) : Except DiskFault Tree :=
  match w.locate p with
  | .error e => .error e
  | .ok place =>
    match Tree.get? place w.tree with
    | some t => .ok t
    | none => .error .notFound

/-! ## Looking -/

/-- Whether a path leads to a file. -/
def isFile (w : Workspace) (p : Path) : Bool :=
  match w.node p with
  | .ok (.file _) => true
  | _ => false

/-- Whether a path leads to a directory. -/
def isDir (w : Workspace) (p : Path) : Bool :=
  match w.node p with
  | .ok (.dir _) => true
  | _ => false

/-- Whether a path cannot be followed because it, or a name in it, is too long. To ask what such a path
leads to is an error, where any other path that leads nowhere just leads to no file. -/
def isOverlong (w : Workspace) (p : Path) : Bool :=
  match w.locate p with
  | .error .nameTooLong => true
  | _ => false

/-- The bytes of a file. -/
def read (w : Workspace) (p : Path) : Except DiskFault ByteArray :=
  match w.node p with
  | .error e => .error e
  | .ok (.dir _) => .error .isDirectory
  | .ok (.file bytes) => .ok bytes

/-- The names of a directory's entries, in the order in which the directory lists them. -/
def list (w : Workspace) (p : Path) : Except DiskFault (List String) :=
  match w.node p with
  | .error e => .error e
  | .ok (.dir entries) => .ok (entries.map Prod.fst)
  | .ok (.file _) => .error .notDirectory

/-! ## Changing -/

/-- Creates a directory in an existing one. -/
def makeDir (w : Workspace) (p : Path) : Except DiskFault Workspace :=
  match w.locate p with
  | .error e => .error e
  | .ok place =>
    match Tree.get? place w.tree with
    | some _ => .error .exists
    | none => .ok { w with tree := Tree.put (.dir []) place w.tree }

/-- Creates a directory and those above it that are missing. The number bounds the directories above
it; the parts of the path are enough. A directory that is there already is left as it is. The workspace
comes back also after a failure, with the directories created before it. -/
def makeDirsWithin : Nat → Workspace → Path → Workspace × Except DiskFault Unit
  | fuel, w, p =>
    match w.makeDir p with
    | .ok w' => (w', .ok ())
    | .error .notFound =>
      match fuel with
      | 0 => (w, .error .notFound)
      | fuel + 1 =>
        match makeDirsWithin fuel w p.parent with
        | (w', .error e) => (w', .error e)
        | (w', .ok ()) =>
          match w'.makeDir p with
          | .ok w'' => (w'', .ok ())
          | .error e => (w', if e ≠ .notFound && w'.isDir p then .ok () else .error e)
    | .error e => (w, if e ≠ .nullInPath && w.isDir p then .ok () else .error e)

/-- Creates a directory and those above it that are missing. -/
def makeDirs (w : Workspace) (p : Path) : Workspace × Except DiskFault Unit :=
  makeDirsWithin p.parts.length w p

/-- Writes a file in an existing directory, in place of the file that was there. -/
def write (w : Workspace) (p : Path) (bytes : ByteArray) : Except DiskFault Workspace :=
  match w.locate p with
  | .error e => .error e
  | .ok place =>
    match Tree.get? place w.tree with
    | some (.dir _) => .error .isDirectory
    | _ => .ok { w with tree := Tree.put (.file bytes) place w.tree }

/-- Removes a file. -/
def delete (w : Workspace) (p : Path) : Except DiskFault Workspace :=
  match w.locate p with
  | .error e => .error e
  | .ok place =>
    match Tree.get? place w.tree with
    | some (.file _) => .ok { w with tree := Tree.remove place w.tree }
    | some (.dir _) => .error .isDirectory
    | none => .error .notFound

end Workspace

end Phrasebook
