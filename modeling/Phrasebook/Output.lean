import Phrasebook.Bundle.Load
import Phrasebook.Catalog.Build
import Phrasebook.Catalog.Validate
import Phrasebook.Settings.Basic
import Phrasebook.Target.Emit

/-!
# Outputs

From a directory of bundles to the two generated files: the catalog is compiled, both files are
rendered in memory, and only then is anything written or compared.

## Contents
- `Workspace.compile`: the completed catalog of a directory
- `Output`, `render`, `Prepared`: the generated files
- `Workspace.isCurrent`, `Workspace.stale`, `Workspace.findStale`: comparing them with what is there
- `Workspace.writeOutputs`, `Workspace.generate`: writing them
-/

namespace Phrasebook

/-- A generated file. -/
structure Output where
  /-- Where it belongs. -/
  path : Path
  /-- Its text. -/
  content : String
  deriving DecidableEq, Repr

/-- A completed catalog, or the gap that was left open. -/
def Validation.report (v : Validation) : Report Catalog :=
  match v.gap? with
  | none => ⟨v.notices, .ok v.catalog⟩
  | some gap => ⟨v.notices, .error (.failure (.missingText gap.key gap.locale))⟩

/-- The text for a target; a catalog that was not completed may lack a text for it. -/
def renderTarget (target : Target) (settings : Settings) (c : Catalog) : Except Fault String :=
  (target.emit settings.defaultLocale c).mapError fun locale => .crash (.noText locale)

/-- Both generated files. -/
def render (settings : Settings) (c : Catalog) : Except Fault (List Output) :=
  match renderTarget .dart settings c with
  | .error fault => .error fault
  | .ok dart =>
    (renderTarget .typeScript settings c).map fun typeScript =>
      [⟨settings.dartOut, dart⟩, ⟨settings.typeScriptOut, typeScript⟩]

/-- A completed catalog and the files that are generated from it. -/
structure Prepared where
  /-- The catalog. -/
  catalog : Catalog
  /-- The generated files. -/
  outputs : List Output

namespace Workspace

/-- The completed catalog of the bundles in the directory that the settings name. -/
def compile (w : Workspace) (settings : Settings) : Report Catalog :=
  (w.loadBundles settings.bundleDir).andThen fun bundles =>
    let c := Catalog.ofBundles bundles
    ((c.validate settings.fallback).report).say [.built c.entries.size c.locales]

/-- Whether the file of an output holds its text. -/
def isCurrent (w : Workspace) (output : Output) : Bool :=
  match w.read output.path with
  | .ok bytes => bytes.data = output.content.toUTF8.data
  | .error _ => false

/-- The outputs whose files do not hold their text. -/
def stale (w : Workspace) (outputs : List Output) : List Output :=
  outputs.filter fun output => !w.isCurrent output

/-- The outputs whose files do not hold their text, if each can be looked for. -/
def findStale (w : Workspace) (outputs : List Output) : Except Crash (List Output) :=
  if outputs.any fun output => w.isOverlong output.path then .error (.disk .nameTooLong)
  else .ok (w.stale outputs)

/-- Writes an output, in a directory that is created when it is missing. -/
def writeOutput (w : Workspace) (output : Output) : Workspace × Except DiskFault Unit :=
  match w.makeDirs output.path.parent with
  | (w', .error fault) => (w', .error fault)
  | (w', .ok ()) =>
    match w'.write output.path output.content.toUTF8 with
    | .error fault => (w', .error fault)
    | .ok w'' => (w'', .ok ())

/-- Writes outputs in order, up to the first that cannot be written. -/
def writeOutputs (w : Workspace) : List Output → Workspace × Report Unit
  | [] => (w, .done ())
  | output :: rest =>
    match w.writeOutput output with
    | (w', .error fault) => (w', .stop (.crash (.disk fault)))
    | (w', .ok ()) =>
      let (w'', report) := w'.writeOutputs rest
      (w'', report.say [.wrote output.path])

/-- Compiles and renders, without writing. -/
def prepare (w : Workspace) (settings : Settings) : Report Prepared :=
  (w.compile settings).andThen fun c => .ofExcept ((render settings c).map (⟨c, ·⟩))

/-- Compiles, renders and writes both files; nothing is written unless both are rendered. -/
def generate (w : Workspace) (settings : Settings) : Workspace × Report Prepared :=
  let prepared := w.prepare settings
  match prepared.outcome with
  | .error _ => (w, prepared)
  | .ok p =>
    let (w', written) := w.writeOutputs p.outputs
    (w', (written.say prepared.notices).andThen fun _ => .done p)

end Workspace

end Phrasebook
