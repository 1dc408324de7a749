/-!
# Characters of a YAML text

The classes of characters that the structure of a YAML text hangs on. A text is a list of characters
in which every line end is one character already.

## Contents
- `isAllowed`: the characters that a text may hold
- `isBreak`, `isGap`, `endsWord`: line breaks and blanks
- `breakText`: what a line break contributes to a scalar
- `isAtMarker`: whether a document marker stands at the start of a line
- `Fault`: why a text is refused
- `unexpected`: the fault where a text does not go on as it has to
-/

namespace Phrasebook.Yaml

/-- Why a text is not read. -/
inductive Fault where
  /-- The text is not YAML, or a value of it has no sense. -/
  | malformed
  /-- The text ends where more of it is needed. -/
  | unfinished
  /-- Too many collections are open. -/
  | tooDeep
  /-- A number, a date or a character is out of range. -/
  | outOfRange
  /-- A number is too large for a float, or the code of a character for any code. -/
  | overflow
  /-- A value tagged as a number has no characters. -/
  | noDigits
  /-- A value tagged as a truth value is none of the words for one. -/
  | unknownWord (word : String)
  /-- A value tagged as a date has not the form of one. -/
  | wrongShape
  /-- A mapping is tagged as a date. -/
  | wrongKind
  /-- The bytes of the text are not UTF-8. -/
  | notUtf8
  /-- A string holds half of a surrogate pair. -/
  | loneSurrogate
  deriving DecidableEq, Repr

/-- Whether a text may hold the character. -/
def isAllowed (c : Char) : Bool :=
  let n := c.toNat
  n = 0x09 || n = 0x0a || n = 0x0d || (0x20 ≤ n && n ≤ 0x7e) || n = 0x85 ||
    (0xa0 ≤ n && n ≤ 0xfffd) || 0x10000 ≤ n

/-- Whether a character ends a line. -/
def isBreak (c : Char) : Bool := c = '\n' || c = '\x85' || c = '\u2028' || c = '\u2029'

/-- Whether a character is a space or a tab. -/
def isGap (c : Char) : Bool := c = ' ' || c = '\t'

/-- Whether a word ends before the character, or at the end of the text. -/
def endsWord : Option Char → Bool
  | none => true
  | some c => isGap c || isBreak c

/-- Whether what follows is the end of a line or of the text. -/
def endsLine : Option Char → Bool
  | none => true
  | some c => isBreak c

/-- Whether what follows is a space, or the end of a line or of the text. -/
def endsField : Option Char → Bool
  | none => true
  | some c => c = ' ' || isBreak c

/-- The character that a line break contributes: a line feed, or a separator as it is. -/
def breakText (c : Char) : Char := if c = '\u2028' || c = '\u2029' then c else '\n'

/-- Whether a document marker, or what has its form, stands at the front. -/
def isAtMarker : List Char → Bool
  | '-' :: '-' :: '-' :: rest => endsWord rest.head?
  | '.' :: '.' :: '.' :: rest => endsWord rest.head?
  | _ => false

/-- Whether a character may stand in the name of an anchor or of a tag's handle. -/
def isNameChar (c : Char) : Bool := c.isAlphanum || c = '-' || c = '_'

/-- The fault where a text does not go on as it has to: what stands there is wrong, or nothing does. -/
def unexpected (cs : List Char) : Fault := if cs.isEmpty then .unfinished else .malformed

end Phrasebook.Yaml
