import Phrasebook.Bundle.Locale
import Phrasebook.Json.Reader
import Phrasebook.Report

/-!
# Loading a directory of bundles

The bundle files of a directory are read by increasing name. Each belongs to a locale; a file whose
locale an earlier file had takes the whole place of that file.

## Contents
- `Workspace.readBundle`: one file
- `Workspace.bundleFiles`: the files of a directory
- `Workspace.loadBundles`: the bundles of a directory by locale
-/

namespace Phrasebook

/-- The suffix of a bundle file. -/
def bundleSuffix : String := ".arb"

/-- The fault of a bundle file whose text is not read. -/
def bundleFault (p : Path) : Json.Fault → Fault
  | .malformed => .failure (.bundleNotJson p.name)
  | .longInteger => .crash .outOfRange
  | .tooDeep => .crash .tooDeep
  | .loneSurrogate => .crash .loneSurrogate

namespace Workspace

/-- The bundle in a file. -/
def readBundle (w : Workspace) (p : Path) : Except Fault Bundle :=
  match w.read p with
  | .error fault => .error (.crash (.disk fault))
  | .ok bytes =>
    match String.fromUTF8? bytes with
    | none => .error (.failure (.bundleNotJson p.name))
    | some text =>
      match Json.read (some maxDigits) text with
      | .error fault => .error (bundleFault p fault)
      | .ok (.obj fields) => .ok (.ofList fields)
      | .ok _ => .error (.failure (.bundleNotObject p.name))

/-- Whether an entry of a directory is a bundle file. An entry that gets too long a path by its name counts
as none. -/
def isBundleFile (w : Workspace) (p : Path) : Bool := w.isFile p && p.suffix = bundleSuffix

/-- The bundle files of a directory, by increasing name. -/
def bundleFiles (w : Workspace) (dir : Path) : Except Fault (List Path) :=
  match w.list dir with
  | .error .nameTooLong => .error (.crash (.disk .nameTooLong))
  | .error _ => .error (.failure (.noBundleDir dir))
  | .ok names =>
    .ok (((NameSet.ofNames names).toNames.map dir.child).filter w.isBundleFile)

/-- Bundles by locale, with the name of the file that each came from. -/
structure Loaded where
  /-- The bundles by locale. -/
  bundles : Bundles
  /-- The file of each locale's bundle. -/
  origins : Fields String

/-- The bundle of a file and its locale. -/
def readLocalized (w : Workspace) (p : Path) : Except Fault (String × Bundle) :=
  match w.readBundle p with
  | .error fault => .error fault
  | .ok bundle =>
    match bundle.locale? p with
    | none => .error (.failure (.unknownLocale p.name))
    | some locale => .ok (locale, bundle)

/-- The report that a file takes the place of another, if it does. -/
def overrideNotices (origins : Fields String) (file locale : String) : List Notice :=
  match origins.get? locale with
  | none => []
  | some earlier => [.overridden file earlier locale]

/-- Loads files in order, on top of those loaded before. -/
def loadFiles (w : Workspace) (acc : Loaded) : List Path → Report Loaded
  | [] => .done acc
  | p :: rest =>
    match w.readLocalized p with
    | .error fault => .stop fault
    | .ok (locale, bundle) =>
      let acc' := ⟨acc.bundles.put locale bundle, acc.origins.put locale p.name⟩
      (loadFiles w acc' rest).say
        (overrideNotices acc.origins p.name locale ++ [.loaded p.name locale bundle.size])

/-- The bundles of a directory by locale. -/
def loadBundles (w : Workspace) (dir : Path) : Report Bundles :=
  (Report.ofExcept (w.bundleFiles dir)).andThen fun files =>
    (loadFiles w ⟨.empty, .empty⟩ files).andThen fun loaded => .done loaded.bundles

end Workspace

end Phrasebook
