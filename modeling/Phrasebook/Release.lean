import Phrasebook.Report
import Phrasebook.Toml.Reader

/-!
# The version of the program

An installed program knows its version; otherwise the project file says it.

## Contents
- `VersionFault`, `VersionFault.message?`: why there is no version
- `Workspace.declaredVersion`: the version in a project file
- `Workspace.version`: the version of the program
-/

namespace Phrasebook

/-- Why there is no version. -/
inductive VersionFault where
  /-- The project file cannot be read. -/
  | unreadable (path : Path)
  /-- The project file declares no version. -/
  | undeclared (path : Path)
  /-- A fault that nothing expects. -/
  | crash (crash : Crash)
  deriving DecidableEq, Repr

/-- The wording of a fault that is expected. -/
def VersionFault.message? : VersionFault → Option String
  | unreadable path => some s!"Unable to read project metadata from {path}"
  | undeclared path => some s!"{path} does not declare a [project] version"
  | crash _ => none

/-- The version that the fields of a project file declare. -/
def versionOfTable (path : Path) (table : Toml.Table) : Except VersionFault String :=
  match table.lookup "project" with
  | none => .error (.undeclared path)
  | some (.table project) =>
    match project.lookup "version" with
    | some (.text version) =>
      if version.isEmpty then .error (.undeclared path) else .ok version
    | _ => .error (.undeclared path)
  | some _ => .error (.crash .wrongShape)

namespace Workspace

/-- The version that a project file declares. -/
def declaredVersion (w : Workspace) (path : Path) : Except VersionFault String :=
  match w.read path with
  | .error .nullInPath => .error (.crash (.disk .nullInPath))
  | .error _ => .error (.unreadable path)
  | .ok bytes =>
    match String.fromUTF8? bytes with
    | none => .error (.crash .notUtf8)
    | some text =>
      match Toml.read text with
      | .error .malformed => .error (.unreadable path)
      | .error .longInteger => .error (.crash .outOfRange)
      | .error .tooDeep => .error (.crash .tooDeep)
      | .ok table => versionOfTable path table

/-- The version of the program, with what is reported while it is looked up. -/
def version (w : Workspace) (installed : Option String) (projectFile : Path) :
    List Notice × Except VersionFault String :=
  match installed with
  | some version => ([], .ok version)
  | none => ([.notInstalled projectFile], w.declaredVersion projectFile)

end Workspace

end Phrasebook
