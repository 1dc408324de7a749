import Phrasebook.Text.Split

/-!
# Paths

File paths in their normal form: repeated and trailing slashes and `.` components are dropped, `..`
components are kept. Exactly two slashes at the front are a root of their own; any other number of
them is the plain root.

## Contents
- `Path`: the type, `ofString`, `text`
- `name`, `suffix`, `parent`, `child`
- `hasNull`, `isLong`, `isLongName`: what no file system follows
-/

namespace Phrasebook

/-- Where a path starts. -/
inductive Root where
  /-- At the working directory. -/
  | relative
  /-- At the root of the tree. -/
  | single
  /-- At the root of the tree, written with two slashes. -/
  | double
  deriving DecidableEq, Repr

namespace Root

/-- The slashes that a root is written with. -/
def text : Root → String
  | relative => ""
  | single => "/"
  | double => "//"

end Root

/-- A path in normal form. -/
structure Path where
  /-- Where the path starts. -/
  root : Root
  /-- The components, none of them empty or `.`. -/
  parts : List String
  deriving DecidableEq, Repr

namespace Path

/-- The root that the slashes at the front of a path give it. -/
def rootOf : List Char → Root
  | '/' :: '/' :: '/' :: _ => .single
  | '/' :: '/' :: _ => .double
  | '/' :: _ => .single
  | _ => .relative

/-- Whether a component counts: it is not empty and not `.`. -/
def isPart (part : List Char) : Bool := part ≠ [] && part ≠ ['.']

/-- The path that a text names. -/
def ofString (s : String) : Path where
  root := rootOf s.toList
  parts := ((Text.splitOn '/' s.toList).filter isPart).map String.ofList

instance : Inhabited Path := ⟨⟨.relative, []⟩⟩

/-- The path as text; the empty relative path is `.`. -/
def text (p : Path) : String :=
  match p.root, p.parts with
  | .relative, [] => "."
  | root, parts => root.text ++ "/".intercalate parts

instance : ToString Path := ⟨text⟩

/-- The last component, or nothing where there is none. -/
def name (p : Path) : String := p.parts.getLastD ""

/-- The path without its last component. -/
def parent (p : Path) : Path := { p with parts := p.parts.dropLast }

/-- The path of an entry of a directory. -/
def child (p : Path) (name : String) : Path := { p with parts := p.parts ++ [name] }

/-- The part of a file name from its last dot on, when characters other than that dot stand both
before and after it. -/
def suffixOf (name : String) : String :=
  let back := name.toList.reverse
  let ext := back.takeWhile (· ≠ '.')
  match back.dropWhile (· ≠ '.') with
  | [] => ""
  | _ :: stem => if stem.isEmpty || ext.isEmpty then "" else String.ofList ('.' :: ext.reverse)

/-- The suffix of the last component. -/
def suffix (p : Path) : String := suffixOf p.name

/-- Whether a component holds a null character, which no file name does. -/
def hasNull (p : Path) : Bool := p.parts.any fun part => part.toList.contains '\x00'

/-- The number of bytes that the name of a file may have. -/
def nameLimit : Nat := 255

/-- The number of bytes that a path may have, with the one behind its end. -/
def pathLimit : Nat := 4096

/-- Whether a name is longer than that of a file may be. -/
def isLongName (name : String) : Bool := nameLimit < name.utf8ByteSize

/-- Whether a path is longer than one may be. Behind each component stands a slash or the end. -/
def isLong (p : Path) : Bool :=
  pathLimit <
    p.parts.foldl (fun bytes part => bytes + part.utf8ByteSize + 1) p.root.text.utf8ByteSize

end Path

end Phrasebook
