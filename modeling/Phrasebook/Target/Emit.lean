import Phrasebook.Target.Dart
import Phrasebook.Target.TypeScript

/-!
# Generated files

The text that a target's accessors are written as.

## Contents
- `Target.lines`: the lines of a file
- `Target.emit`: the file for a catalog
-/

namespace Phrasebook.Target

/-- The lines of a target's file. -/
def lines : Target → List String → String → List Accessor → List Source.Line
  | dart => Dart.lines
  | typeScript => TypeScript.lines

/-- The file for a catalog, with the locale to fall back to that was asked for; or the locale that a
key has no text for. -/
def emit (target : Target) (asked : String) (c : Catalog) : Except String String :=
  (target.plan c).map fun accessors =>
    Source.text target (target.lines c.locales (c.defaultLocale asked) accessors)

end Phrasebook.Target
