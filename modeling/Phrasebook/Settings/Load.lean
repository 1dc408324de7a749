import Phrasebook.Settings.Values
import Phrasebook.Yaml.Document

/-!
# Loading settings

Settings come from a YAML file, from values given besides, or from both; a value given besides takes
the place of the file's.

## Contents
- `Settings.valuesOfDocument`: the values in a document
- `Workspace.readValues`: the values in a file
- `Settings.withOverrides`: values given besides
- `Workspace.loadSettings`: the whole
-/

namespace Phrasebook

namespace Settings

/-- A value of a document as one for a setting. -/
def valueOf : Yaml.Built → Value
  | some .null => .null
  | some (.text s) => .text s
  | some (.bytes b) => .bytes b
  | _ => .other

/-- A key of a document as one of settings. -/
def keyOf : Yaml.Scalar → Key
  | .text s => .text s
  | key => .other key.shown

/-- The values in a document, unless it is something other than a mapping. -/
def valuesOfDocument : Yaml.Document → Option Values
  | .nothing => some []
  | .mapping pairs => some (pairs.map fun (key, value) => (keyOf key, valueOf value))
  | .other => none

/-- Values with others given besides; a null among those counts as not given. -/
def withOverrides (values : Values) (overrides : List (String × Value)) : Values :=
  overrides.foldl (fun values (name, value) => match value with
    | .null => values
    | value => values.put name value) values

end Settings

/-- The fault of a settings file whose text is not read. -/
def settingsFault (p : Path) : Yaml.Fault → Fault
  | .malformed | .unfinished => .failure (.settingsNotYaml p)
  | .tooDeep => .crash .tooDeep
  | .outOfRange => .crash .outOfRange
  | .overflow => .crash .overflow
  | .noDigits => .crash .noDigits
  | .unknownWord word => .crash (.unknownWord word)
  | .wrongShape => .crash .wrongShape
  | .wrongKind => .crash .wrongKind
  | .notUtf8 => .crash .notUtf8
  | .loneSurrogate => .crash .loneSurrogate

namespace Workspace

/-- The values in a settings file. -/
def readValues (w : Workspace) (p : Path) : Except Fault Settings.Values :=
  match w.read p with
  | .error .nameTooLong => .error (.crash (.disk .nameTooLong))
  | .error _ => .error (.failure (.noSettingsFile p))
  | .ok bytes =>
    match Yaml.Document.read bytes with
    | .error fault => .error (settingsFault p fault)
    | .ok document =>
      match Settings.valuesOfDocument document with
      | none => .error (.failure .settingsNotMapping)
      | some values => .ok values

/-- The settings from a file, if one is named, and from values given besides. -/
def loadSettings (w : Workspace) (file : Option Path) (overrides : List (String × Settings.Value)) :
    Except Fault Settings :=
  let values : Except Fault Settings.Values := match file with
    | none => .ok []
    | some p => w.readValues p
  match values with
  | .error fault => .error fault
  | .ok values =>
    (Settings.ofValues (Settings.withOverrides values overrides)).mapError .failure

end Workspace

end Phrasebook
