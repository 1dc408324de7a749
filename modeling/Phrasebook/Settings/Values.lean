import Phrasebook.Failure
import Phrasebook.Settings.LocaleTag
import Phrasebook.Text.Blank

/-!
# Settings from values

Values given under keys become settings when every key is known and every value fits. A key that is
no setting comes before all other faults; after that the faults are collected setting by setting, and
only when there is none are the two outputs compared.

## Contents
- `Value`, `Key`, `Values`: what is given
- `readPath`, `readTag`: one setting
- `Values.unknownKey?`, `Values.keyIssues`: what is wrong with the keys
- `Settings.ofValues`: the settings
-/

namespace Phrasebook

namespace Settings

/-- A value given for a setting. -/
inductive Value where
  | text (s : String)
  | bytes (b : ByteArray)
  | path (p : Path)
  | null
  /-- A value of any other kind. -/
  | other
  deriving Inhabited

/-- A key that a value is given under. -/
inductive Key where
  | text (s : String)
  /-- A key of another kind, as it is shown. -/
  | other (shown : String)
  deriving DecidableEq, Repr

/-- Values under their keys, in order. -/
abbrev Values := List (Key × Value)

namespace Values

/-- The value given for a setting. -/
def get? (values : Values) (setting : Setting) : Option Value := values.lookup (.text setting.key)

/-- Gives a value under a text key: in the place of an earlier one, or at the end. -/
def put (name : String) (value : Value) : Values → Values
  | [] => [(.text name, value)]
  | (k, v) :: rest => if k = .text name then (k, value) :: rest else (k, v) :: put name value rest

/-- The first text key that is no setting's. -/
def unknownKey? (values : Values) : Option String :=
  values.findSome? fun
    | (.text s, _) => if Setting.isKey s then none else some s
    | (.other _, _) => none

/-- The keys that are no texts. -/
def keyIssues (values : Values) : List Issue :=
  values.filterMap fun
    | (.text _, _) => none
    | (.other shown, _) => some (.keyNotText shown)

end Values

/-- Reads a path, when one is given. -/
def readPath (setting : Setting) (default : Path) : Option Value → Except Issue Path
  | none => .ok default
  | some (.text s) => .ok (.ofString s)
  | some (.path p) => .ok p
  | some _ => .error (.notPath setting)

/-- Reads the path of an output, which has to end in a file name. -/
def readOutput (setting : Setting) (default : Path) (given : Option Value) : Except Issue Path :=
  match readPath setting default given with
  | .error issue => .error issue
  | .ok path => if path.name.isEmpty then .error (.unnamedOutput setting) else .ok path

/-- Checks a locale tag; blanks at its ends are dropped. -/
def readTag (setting : Setting) (s : String) : Except Issue String :=
  let tag := Text.strip s
  if isLocaleTag tag then .ok tag else .error (.notTag setting tag)

/-- Reads a locale tag, when one is given. -/
def readLocale (setting : Setting) (default : String) : Option Value → Except Issue String
  | none => .ok default
  | some (.text s) => readTag setting s
  | some (.bytes b) =>
    match String.fromUTF8? b with
    | none => .error (.notUnicode setting)
    | some s => readTag setting s
  | some _ => .error (.notText setting)

/-- Reads a locale tag that may be left out: a null or a blank text counts as none. -/
def readFallback (setting : Setting) : Option Value → Except Issue (Option String)
  | none | some .null => .ok none
  | some (.text s) => if Text.isBlankText s then .ok none else (readTag setting s).map some
  | given => (readLocale setting "" given).map some

/-- The issue of a value that was refused. -/
def issue? {α : Type} : Except Issue α → Option Issue
  | .ok _ => none
  | .error issue => some issue

end Settings

open Settings in
/-- The settings that values give, or why they are refused. -/
def Settings.ofValues (values : Values) : Except Failure Settings :=
  let default : Settings := {}
  let bundleDir := readPath .bundleDir default.bundleDir (values.get? .bundleDir)
  let dartOut := readOutput .dartOut default.dartOut (values.get? .dartOut)
  let typeScriptOut :=
    readOutput .typeScriptOut default.typeScriptOut (values.get? .typeScriptOut)
  let fallback := readFallback .fallback (values.get? .fallback)
  let defaultLocale :=
    readLocale .defaultLocale default.defaultLocale (values.get? .defaultLocale)
  match values.unknownKey? with
  | some name => .error (.unknownParameter name)
  | none =>
    match bundleDir, dartOut, typeScriptOut, fallback, defaultLocale, values.keyIssues with
    | .ok dir, .ok dart, .ok typeScript, .ok fallback, .ok locale, [] =>
      if dart = typeScript then .error (.invalidSettings [.sameOutputs])
      else .ok ⟨dir, dart, typeScript, fallback, locale⟩
    | _, _, _, _, _, keyIssues =>
      let settingIssues :=
        [issue? bundleDir, issue? dartOut, issue? typeScriptOut, issue? fallback,
          issue? defaultLocale].filterMap id
      .error (.invalidSettings (settingIssues ++ keyIssues))

end Phrasebook
