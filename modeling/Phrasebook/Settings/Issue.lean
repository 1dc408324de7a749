import Phrasebook.Settings.Basic
import Phrasebook.Text.Quoted

/-!
# Issues with settings

Why values given for the settings are refused.

## Contents
- `Issue`: one reason
- `Issue.lines`: its wording
- `Issue.summary`: all reasons in words
-/

namespace Phrasebook

/-- A reason to refuse the values given for the settings. -/
inductive Issue where
  /-- The value is no path. -/
  | notPath (setting : Setting)
  /-- The value is no text. -/
  | notText (setting : Setting)
  /-- The value is bytes that are no text. -/
  | notUnicode (setting : Setting)
  /-- The text is no locale tag. -/
  | notTag (setting : Setting) (text : String)
  /-- The path ends in no file name. -/
  | unnamedOutput (setting : Setting)
  /-- A key is no text; it is kept as it is shown. -/
  | keyNotText (shown : String)
  /-- Both outputs are the same file. -/
  | sameOutputs
  deriving DecidableEq, Repr

namespace Issue

/-- The line that names the place of an issue, if it has one. -/
def place : Issue → Option String
  | notPath setting | notText setting | notUnicode setting | notTag setting _
  | unnamedOutput setting => some setting.key
  | keyNotText shown => some shown
  | sameOutputs => none

/-- The wording of an issue. -/
def text : Issue → String
  | notPath _ => "Input is not a valid path for <class 'pathlib.Path'>"
  | notText _ => "Input should be a valid string"
  | notUnicode _ =>
    "Input should be a valid string, unable to parse raw data as a unicode string"
  | notTag _ tag => "Value error, Invalid locale tag: " ++ Text.quoted tag
  | unnamedOutput _ => "Value error, Output paths must name a file"
  | keyNotText _ => "Keys should be strings"
  | sameOutputs => "Value error, Dart and TypeScript outputs must be different files"

/-- An issue as lines: its place, then its wording. -/
def lines (issue : Issue) : List String := issue.place.toList ++ ["  " ++ issue.text]

/-- All issues in words, after a line with their number. -/
def summary (issues : List Issue) : String :=
  let count := toString issues.length ++ (if issues.length = 1 then " validation error" else
    " validation errors")
  "\n".intercalate ((count ++ " for GeneratorConfig") :: issues.flatMap lines)

end Issue

end Phrasebook
