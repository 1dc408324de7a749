import Phrasebook.Path

/-!
# Settings

What one run of the generator is asked to do, and the reasons for which values given for it are
refused.

## Contents
- `Settings`: the settings and their defaults
- `Setting`: their names
-/

namespace Phrasebook

/-- The settings of one run. -/
structure Settings where
  /-- The directory of the bundle files. -/
  bundleDir : Path := .ofString "lib/l10n"
  /-- The file of the Dart library. -/
  dartOut : Path := .ofString "lib/generated/l10n.g.dart"
  /-- The file of the TypeScript module. -/
  typeScriptOut : Path := .ofString "web/generated/l10n.ts"
  /-- The locale whose texts close the gaps of others. -/
  fallback : Option String := none
  /-- The locale that the generated code falls back to. -/
  defaultLocale : String := "en"
  deriving DecidableEq, Repr

/-- The name of a setting. -/
inductive Setting where
  | bundleDir
  | dartOut
  | typeScriptOut
  | fallback
  | defaultLocale
  deriving DecidableEq, Repr

namespace Setting

/-- All settings, in the order in which they are checked. -/
def all : List Setting := [bundleDir, dartOut, typeScriptOut, fallback, defaultLocale]

/-- The key of a setting in a settings file. -/
def key : Setting → String
  | bundleDir => "arb_dir"
  | dartOut => "dart_out"
  | typeScriptOut => "ts_out"
  | fallback => "fallback_locale"
  | defaultLocale => "default_locale"

/-- Whether a text is the key of a setting. -/
def isKey (name : String) : Bool := all.any fun setting => setting.key = name

end Setting

end Phrasebook
