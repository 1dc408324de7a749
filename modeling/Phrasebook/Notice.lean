import Phrasebook.Path

/-!
# Notices

What the program reports on the way to its result. A notice is kept as what happened; its wording, its
level and the part of the program it comes from are functions of that.

## Contents
- `Level`: how much a notice matters
- `Notice`: what happened
- `Notice.level`, `Notice.channel`, `Notice.message`, `Notice.line`
-/

namespace Phrasebook

/-- How much a notice matters, least first. -/
inductive Level where
  | debug
  | info
  | warning
  deriving DecidableEq, Repr

namespace Level

/-- The rank of a level. -/
def rank : Level → Nat
  | debug => 0
  | info => 1
  | warning => 2

/-- The word for a level. -/
def text : Level → String
  | debug => "DEBUG"
  | info => "INFO"
  | warning => "WARNING"

end Level

/-- Something that happened on the way. -/
inductive Notice where
  /-- A bundle file was read. -/
  | loaded (file locale : String) (fields : Nat)
  /-- A bundle file took the place of an earlier one of its locale. -/
  | overridden (file earlier locale : String)
  /-- The catalog was put together. -/
  | built (keys : Nat) (locales : List String)
  /-- The fallback locale has no bundle. -/
  | unknownFallback (locale : String) (locales : List String)
  /-- A gap took the text of the fallback locale. -/
  | filled (locale key fallback : String)
  /-- The placeholders declared for a key are not those that its texts use. -/
  | mismatch (key : String) (declared used : List String)
  /-- An output was written. -/
  | wrote (path : Path)
  /-- The program was never installed, so a project file is asked for its version. -/
  | notInstalled (projectFile : Path)
  deriving DecidableEq, Repr

namespace Notice

/-- The level of a notice. -/
def level : Notice → Level
  | loaded .. | filled .. | notInstalled .. => .debug
  | built .. | wrote .. => .info
  | overridden .. | unknownFallback .. | mismatch .. => .warning

/-- The part of the program that a notice comes from. -/
def channel : Notice → String
  | loaded .. | overridden .. => "arbgen.compiler.loader"
  | unknownFallback .. | filled .. | mismatch .. => "arbgen.compiler.validator"
  | built .. | wrote .. => "arbgen.pipeline"
  | notInstalled .. => "arbgen.version"

/-- The locales of a catalog in words. -/
def localesText (locales : List String) : String :=
  let text := ", ".intercalate locales
  if text.isEmpty then "(none)" else text

/-- A set of names between braces. -/
def namesText (names : List String) : String := "\x7b" ++ ", ".intercalate names ++ "\x7d"

/-- The wording of a notice. -/
def message : Notice → String
  | loaded file locale fields => s!"Loaded {file} as locale {locale} ({fields} fields)"
  | overridden file earlier locale => s!"Bundle {file} overrides {earlier} for locale {locale}"
  | built keys locales => s!"Built model with {keys} keys across locales: {localesText locales}"
  | unknownFallback locale locales =>
    s!"Fallback locale {locale} is not one of the bundle locales (" ++
      ", ".intercalate locales ++ ")"
  | filled locale key fallback => s!"Filled {locale} for key {key} from fallback {fallback}"
  | mismatch key declared used =>
    s!"Key {key} declares placeholders {namesText declared} but its values use {namesText used}"
  | wrote path => s!"Wrote {path}"
  | notInstalled projectFile => s!"arbgen is not installed, reading {projectFile}"

/-- A notice as a line of the log, its level first. -/
def line (n : Notice) : String := s!"{n.level.text} {n.channel}: {n.message}"

end Notice

end Phrasebook
