import Phrasebook.Text.Split

/-!
# Locale tags

A locale tag is a word of two or three letters, followed by any number of words of two to eight
letters and digits, with a hyphen or an underscore in front of each. All letters and digits are ASCII.

## Contents
- `isLocaleTag`: the grammar
-/

namespace Phrasebook

/-- The words of a text between its hyphens and underscores. -/
def tagWords (cs : List Char) : List (List Char) :=
  Text.splitOn '-' (cs.map fun c => if c = '_' then '-' else c)

/-- Whether a word may start a tag. -/
def isLanguageWord (word : List Char) : Bool :=
  2 ≤ word.length && word.length ≤ 3 && word.all Char.isAlpha

/-- Whether a word may follow in a tag. -/
def isSubtagWord (word : List Char) : Bool :=
  2 ≤ word.length && word.length ≤ 8 && word.all Char.isAlphanum

/-- Whether a text is a locale tag. -/
def isLocaleTag (s : String) : Bool :=
  match tagWords s.toList with
  | [] => false
  | language :: subtags => isLanguageWord language && subtags.all isSubtagWord

end Phrasebook
