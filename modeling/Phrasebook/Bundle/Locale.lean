import Phrasebook.Bundle.Basic
import Phrasebook.Path
import Phrasebook.Text.Blank

/-!
# The locale of a bundle

A bundle names its locale in a field of its own; where that is missing or blank, the name of its file
tells: it ends in an underscore, a tag of two small letters with an optional region of two capitals,
and an extension.

## Contents
- `localeOfFileName?`: the tag in a file name
- `Bundle.locale?`: the locale of a bundle
-/

namespace Phrasebook

/-- The tag at the end of a file's stem, from the characters of the stem in reverse. -/
def tagOfReversedStem? : List Char → Option String
  | y :: x :: '-' :: b :: a :: '_' :: _ =>
    if a.isLower && b.isLower && x.isUpper && y.isUpper then some (String.ofList [a, b, '-', x, y])
    else none
  | b :: a :: '_' :: _ => if a.isLower && b.isLower then some (String.ofList [a, b]) else none
  | _ => none

/-- The locale tag in a file name: what stands between the last underscore and the last dot, when an
extension follows. -/
def localeOfFileName? (name : String) : Option String :=
  let back := name.toList.reverse
  if (back.takeWhile (· ≠ '.')).isEmpty then none
  else
    match back.dropWhile (· ≠ '.') with
    | [] => none
    | _ :: stem => tagOfReversedStem? stem

namespace Bundle

/-- The locale that a bundle names itself, blanks at its ends removed. -/
def declaredLocale? (bundle : Bundle) : Option String :=
  match bundle.get? "@@locale" with
  | some (.str s) => if Text.isBlankText s then none else some (Text.strip s)
  | _ => none

/-- The locale of the bundle read from a file. -/
def locale? (bundle : Bundle) (path : Path) : Option String :=
  bundle.declaredLocale?.or (localeOfFileName? path.name)

end Bundle

end Phrasebook
