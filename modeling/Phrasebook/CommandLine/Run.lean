import Phrasebook.CommandLine.Arguments
import Phrasebook.CommandLine.Help
import Phrasebook.Output
import Phrasebook.Settings.Load

/-!
# Running the command line

What one run of the program does with a workspace: what it prints, which files it writes, and how it
ends.

## Contents
- `Run`: what a run comes to
- `Arguments.overrides`, `Arguments.loadSettings`: the settings that the arguments ask for
- `Arguments.run`: a run with arguments that were read
- `run`: a run of the command line
-/

namespace Phrasebook.CommandLine

/-- What a run comes to. -/
structure Run where
  /-- The exit code, or the fault that ended the run. -/
  exit : Except Crash Nat
  /-- The lines printed as output. -/
  out : List String := []
  /-- The lines printed as diagnostics. -/
  err : List String := []
  /-- The workspace afterwards. -/
  workspace : Workspace

namespace Run

/-- A run with diagnostics put in front. -/
def afterLines (lines : List String) (r : Run) : Run := { r with err := lines ++ r.err }

end Run

/-- A run that reports a failure. -/
def failed (w : Workspace) (failure : Failure) : Run :=
  { exit := .ok 1, err := ["[error] " ++ failure.message], workspace := w }

/-- A run that a fault ends. -/
def stopped (w : Workspace) : Fault → Run
  | .failure failure => failed w failure
  | .crash crash => { exit := .error crash, workspace := w }

/-- The notices that are printed, as lines. -/
def logLines (verbose : Bool) (notices : List Notice) : List String :=
  let least := if verbose then Level.info else .warning
  (notices.filter fun n => least.rank ≤ n.level.rank).map Notice.line

namespace Arguments

/-- What an option was given, as a value of a setting. -/
def valueOf : Given → Settings.Value
  | .text s => .text s
  | .nothing => .other

/-- The values that the arguments give the settings. -/
def overrides (a : Arguments) : List (String × Settings.Value) :=
  Setting.all.filterMap fun setting =>
    (a.settings.lookup setting).map fun given => (setting.key, valueOf given)

/-- The settings that the arguments ask for. -/
def loadSettings (a : Arguments) (w : Workspace) : Except Fault Settings :=
  match a.config with
  | none => w.loadSettings none a.overrides
  | some (.text s) => w.loadSettings (some (.ofString s)) a.overrides
  | some .nothing => .error (.crash .wrongShape)

/-- Compares the outputs with their files. -/
def compare (w : Workspace) (outputs : List Output) : Run :=
  match w.findStale outputs with
  | .error crash => { exit := .error crash, workspace := w }
  | .ok [] => { exit := .ok 0, out := [s!"[ok] {outputs.length} file(s) up to date"], workspace := w }
  | .ok stale => { exit := .ok 1, out := stale.map fun o => s!"[stale] {o.path}", workspace := w }

/-- The lines that sum up a run that wrote its outputs. -/
def summary (p : Prepared) : List String :=
  p.outputs.map (fun o => s!"[written] {o.path}") ++
    [s!"[ok] {p.catalog.entries.size} key(s), locales: " ++ ", ".intercalate p.catalog.locales]

/-- Writes the outputs. -/
def publish (a : Arguments) (w : Workspace) (p : Prepared) : Run :=
  let (w', report) := w.writeOutputs p.outputs
  let run := match report.outcome with
    | .error fault => stopped w' fault
    | .ok () => { exit := .ok 0, out := summary p, workspace := w' }
  run.afterLines (logLines a.verbose report.notices)

/-- A run with settings. -/
def runWith (a : Arguments) (w : Workspace) (settings : Settings) : Run :=
  let report := w.prepare settings
  let run := match report.outcome with
    | .error fault => stopped w fault
    | .ok p => if a.check then compare w p.outputs else a.publish w p
  run.afterLines (logLines a.verbose report.notices)

/-- A run with arguments that were read. An argument without meaning ends it before any file is
looked at. -/
def run (a : Arguments) (w : Workspace) : Run :=
  match a.unknown with
  | name :: _ => { failed w (.unknownParameter name) with out := helpLines }
  | [] =>
    match a.loadSettings w with
    | .error fault => stopped w fault
    | .ok settings => a.runWith w settings

end Arguments

/-- A run of the command line. -/
def run (version : String) (w : Workspace) (argv : List String) : Run :=
  match Arguments.read argv with
  | .help => { exit := .ok 0, out := helpLines, workspace := w }
  | .version => { exit := .ok 0, out := [programName ++ " " ++ version], workspace := w }
  | .misuse misuse =>
    { exit := .ok 2, err := usageLines ++ [programName ++ ": error: " ++ misuse.message], workspace := w }
  | .arguments a => a.run w

end Phrasebook.CommandLine
