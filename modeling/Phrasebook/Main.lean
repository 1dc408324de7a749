import Phrasebook.CommandLine.Run

/-!
# The program

A run of the command line is a function of a workspace. The program observes the part of the file
system that the run looks at, runs, carries out what changed, and prints.

## Contents
- `observe`, `observeBundles`: paths of the file system as part of a workspace
- `survey`: what a run looks at
- `commit`: the difference between two workspaces, made in the file system
- `main`: the program
-/

namespace Phrasebook.CommandLine

/-- An empty workspace at the working directory. -/
def startingWorkspace : IO Workspace := do
  let place := (Path.ofString (← IO.currentDir).toString).parts
  return ⟨Tree.put (.dir []) place (.dir []), place⟩

/-- Adds what stands at a path to a workspace that has the directories on the way. -/
def observeNode (w : Workspace) (p : Path) : IO Workspace := do
  let .ok place := w.locate p | return w
  if (Tree.get? place w.tree).isSome then return w
  let target := (← IO.currentDir) / p.text
  if ← target.isDir then return { w with tree := Tree.put (.dir []) place w.tree }
  if ← target.pathExists then
    let bytes ← IO.FS.readBinFile target
    return { w with tree := Tree.put (.file bytes) place w.tree }
  return w

/-- Adds what stands at a path to a workspace, the directories on the way first. -/
def observe (w : Workspace) (p : Path) : IO Workspace :=
  (List.range (p.parts.length + 1)).foldlM
    (fun w n => observeNode w { p with parts := p.parts.take n }) w

/-- Adds a directory and the bundle files in it to a workspace. -/
def observeBundles (w : Workspace) (dir : Path) : IO Workspace := do
  let w ← observe w dir
  if w.isDir dir then
    let entries ← ((← IO.currentDir) / dir.text).readDir
    let bundles := (entries.toList.map fun e => dir.child e.fileName).filter
      fun p => p.suffix = bundleSuffix
    bundles.foldlM observe w
  else return w

/-- The part of the file system that a run looks at: the settings file, and the bundles and outputs
that the settings name. -/
def survey (argv : List String) : IO Workspace := do
  let w ← startingWorkspace
  let .arguments a := Arguments.read argv | return w
  let w ← match a.config with
    | some (.text s) => observe w (.ofString s)
    | _ => pure w
  let .ok settings := a.loadSettings w | return w
  let w ← observeBundles w settings.bundleDir
  [settings.dartOut, settings.typeScriptOut].foldlM observe w

/-- Creates the directories and writes the files that a workspace has and an earlier one had not. -/
def commit (before after : Workspace) : IO Unit :=
  after.tree.nodes.forM fun (place, bytes?) => do
    let target := "/" ++ "/".intercalate place
    match bytes?, Tree.get? place before.tree with
    | none, some _ => pure ()
    | none, none => IO.FS.createDirAll target
    | some bytes, some (.file old) => unless bytes.data = old.data do IO.FS.writeBinFile target bytes
    | some bytes, _ => IO.FS.writeBinFile target bytes

/-- Runs the command line on the file system; the result is the exit code. -/
def execute (argv : List String) : IO UInt32 := do
  let before ← survey argv
  let run := CommandLine.run programVersion before argv
  commit before run.workspace
  run.out.forM fun line => IO.println line
  run.err.forM fun line => IO.eprintln line
  match run.exit with
  | .ok code => return code.toUInt32
  | .error _ =>
    IO.eprintln s!"{programName}: unexpected fault"
    return 1

end Phrasebook.CommandLine

/-- The program. -/
def main (argv : List String) : IO UInt32 := Phrasebook.CommandLine.execute argv
