import Phrasebook.Settings.Issue
import Phrasebook.Workspace

/-!
# Failures

What can go wrong. A failure is a fault of the input that the command line reports in words; a crash
is a fault that nothing in the program expects, and it ends the run.

## Contents
- `Failure`, `Failure.message`: the expected faults
- `Crash`: the others
- `Fault`: either
-/

namespace Phrasebook

/-- A fault of the input. -/
inductive Failure where
  /-- Neither a bundle nor the name of its file tells its locale. -/
  | unknownLocale (file : String)
  /-- A bundle file is not JSON in UTF-8. -/
  | bundleNotJson (file : String)
  /-- A bundle file holds a value other than an object. -/
  | bundleNotObject (file : String)
  /-- There is no directory of bundles. -/
  | noBundleDir (path : Path)
  /-- A key has no text for a locale. -/
  | missingText (key locale : String)
  /-- No target has the name. -/
  | unknownTarget (name : String)
  /-- There is no settings file. -/
  | noSettingsFile (path : Path)
  /-- A settings file is not YAML. -/
  | settingsNotYaml (path : Path)
  /-- A settings file holds a value other than a mapping. -/
  | settingsNotMapping
  /-- Values for the settings are refused. -/
  | invalidSettings (issues : List Issue)
  /-- No setting or option has the name. -/
  | unknownParameter (name : String)
  deriving DecidableEq, Repr

namespace Failure

/-- The wording of a failure. -/
def message : Failure → String
  | unknownLocale file => "Cannot infer locale from: " ++ file
  | bundleNotJson file => s!"Bundle {file} is not valid UTF-8 JSON"
  | bundleNotObject file => s!"Bundle {file} must define an object at the top level"
  | noBundleDir path => s!"Missing bundle directory: {path}"
  | missingText key locale => "Missing \"" ++ locale ++ "\" translation for key: " ++ key
  | unknownTarget name => "Unknown emitter: " ++ name
  | noSettingsFile path => s!"Configuration file not found: {path}"
  | settingsNotYaml path => s!"Configuration file {path} is not valid YAML"
  | settingsNotMapping => "Configuration file must define a mapping at the top level"
  | invalidSettings issues => "Configuration validation failed: " ++ Issue.summary issues
  | unknownParameter name => "Unknown parameter: " ++ name

end Failure

/-- A fault that nothing expects. -/
inductive Crash where
  /-- An integer has too many digits, or a value is out of the range of its kind. -/
  | outOfRange
  /-- A number is too large to be computed with. -/
  | overflow
  /-- A value tagged as a number has no characters. -/
  | noDigits
  /-- Too many collections of a file are open. -/
  | tooDeep
  /-- A file is not UTF-8. -/
  | notUtf8
  /-- A text to be written has no encoding. -/
  | notEncodable
  /-- A string that was read holds half of a surrogate pair. What the program makes of it is not followed
  any further. -/
  | loneSurrogate
  /-- The file system refuses an operation. -/
  | disk (fault : DiskFault)
  /-- A catalog that was not completed has no text for a locale. -/
  | noText (locale : String)
  /-- A value tagged as a truth value is none of the words for one. -/
  | unknownWord (word : String)
  /-- A value has not the structure that it is asked for. -/
  | wrongShape
  /-- A collection stands where a text is needed. -/
  | wrongKind
  deriving DecidableEq, Repr

/-- What ends a computation without a result. -/
inductive Fault where
  | failure (failure : Failure)
  | crash (crash : Crash)
  deriving DecidableEq, Repr

end Phrasebook
