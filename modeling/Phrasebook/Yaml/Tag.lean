import Phrasebook.Decimal.Numeral
import Phrasebook.Yaml.Chars

/-!
# Tags, anchors and directives

The words that name the type of a value, mark a value for reuse, or set up a document.

## Contents
- `tagHandle`, `tagUri`, `tag`: tags
- `anchorName`: the name of an anchor or alias
- `Directive`, `directive`: directives
-/

namespace Phrasebook.Yaml

/-- Reads a handle: an exclamation mark alone before a space, or two with a name between them. -/
def tagHandle (cs : List Char) : Except Fault (String × List Char) :=
  match cs with
  | '!' :: rest =>
    if rest.head? = some ' ' then .ok ("!", rest)
    else
      let name := rest.takeWhile isNameChar
      match rest.dropWhile isNameChar with
      | '!' :: after => .ok (String.ofList ('!' :: name ++ ['!']), after)
      | after => .error (unexpected after)
  | cs => .error (unexpected cs)

/-- Whether a character may stand in the suffix of a tag. -/
def isUriChar (c : Char) : Bool := c.isAlphanum || "-;/?:@&=+$,_.!~*'()[]%".toList.contains c

/-- Reads the bytes of percent escapes that follow each other. -/
def percentBytes (acc : List UInt8) : List Char → Except Fault (List UInt8 × List Char)
  | '%' :: a :: b :: rest =>
    if isDigitOf 16 a && isDigitOf 16 b then
      percentBytes (UInt8.ofNat (natOfDigits 16 [a, b]) :: acc) rest
    else .error .malformed
  | '%' :: rest => .error (if rest.all (isDigitOf 16) then .unfinished else .malformed)
  | cs => .ok (acc.reverse, cs)

/-- Reads the characters of a tag's suffix; `acc` holds those read, last first. The first argument
bounds their number. -/
def uriChars : Nat → List Char → List Char → Except Fault (List Char × List Char)
  | 0, _, _ => .error .malformed
  | _, acc, [] => .ok (acc.reverse, [])
  | fuel + 1, acc, c :: rest =>
    if c = '%' then
      match percentBytes [] (c :: rest) with
      | .error fault => .error fault
      | .ok (bytes, rest) =>
        match String.fromUTF8? ⟨bytes.toArray⟩ with
        | none => .error .malformed
        | some s => uriChars fuel (s.toList.reverse ++ acc) rest
    else if isUriChar c then uriChars fuel (c :: acc) rest
    else .ok (acc.reverse, c :: rest)

/-- Reads the suffix of a tag, which may not be empty. -/
def tagUri (cs : List Char) : Except Fault (String × List Char) :=
  match uriChars (cs.length + 1) [] cs with
  | .error fault => .error fault
  | .ok (chars, rest) =>
    if chars.isEmpty then .error (unexpected rest) else .ok (String.ofList chars, rest)

/-- The word that follows, up to a space or the end of a line. -/
def word (cs : List Char) : List Char := cs.takeWhile fun c => !(c = ' ' || isBreak c)

/-- Whether the word that follows reaches to the end of the text without an exclamation mark. -/
def isLastWord (cs : List Char) : Bool :=
  !(word cs).contains '!' && (cs.drop (word cs).length).isEmpty

/-- Reads the suffix of a tag and then what has to end the tag. -/
def tagSuffix (handle : Option String) (cs : List Char) :
    Except Fault ((Option String × String) × List Char) := do
  let (suffix, rest) ← tagUri cs
  if endsField rest.head? then .ok ((handle, suffix), rest) else .error .malformed

/-- Reads a tag: its handle, if it has one, and its suffix. The whole word is looked through for a
handle before any of it is read. -/
def tag (cs : List Char) : Except Fault ((Option String × String) × List Char) :=
  let rest := cs.drop 1
  if rest.head? = some '<' then do
    let (suffix, rest) ← tagUri (rest.drop 1)
    if rest.head? ≠ some '>' then throw (unexpected rest)
    if endsField (rest.drop 1).head? then .ok ((none, suffix), rest.drop 1) else .error .malformed
  else if endsWord rest.head? then
    if endsField rest.head? then .ok ((none, "!"), rest) else .error .malformed
  else if (word rest).contains '!' then do
    let (handle, rest) ← tagHandle cs
    tagSuffix (some handle) rest
  else
    (tagSuffix (some "!") rest).mapError fun fault => if isLastWord rest then .unfinished else fault

/-- Reads the name after the sign of an anchor or alias. -/
def anchorName (cs : List Char) : Except Fault (String × List Char) :=
  let name := cs.takeWhile isNameChar
  let rest := cs.dropWhile isNameChar
  if name.isEmpty then .error (unexpected rest)
  else if endsWord rest.head? || rest.head?.any ("?:,]\x7d%@`".toList.contains ·) then
    .ok (String.ofList name, rest)
  else .error .malformed

/-- A directive. -/
inductive Directive where
  /-- The version of YAML that a document is written in. -/
  | version (major minor : Nat)
  /-- What a tag's handle stands for. -/
  | handle (handle front : String)
  /-- Any other directive. -/
  | other
  deriving DecidableEq, Repr

/-- Reads a number. -/
def directiveNumber (cs : List Char) : Except Fault (Nat × List Char) :=
  let digits := cs.takeWhile Char.isDigit
  let rest := cs.dropWhile Char.isDigit
  if digits.isEmpty then .error (unexpected rest)
  else if maxDigits < digits.length then .error .outOfRange
  else .ok (natOfDigits 10 digits, rest)

/-- Reads a directive after its sign, up to the end of its line. -/
def directive (cs : List Char) : Except Fault (Directive × List Char) := do
  let skipSpaces (cs : List Char) : List Char := cs.dropWhile (· = ' ')
  let name := String.ofList (cs.takeWhile isNameChar)
  let rest := cs.dropWhile isNameChar
  if name.isEmpty then throw (unexpected rest)
  if !endsField rest.head? then throw .malformed
  let (value, rest) ←
    if name = "YAML" then
      let (major, rest) ← directiveNumber (skipSpaces rest)
      if rest.head? ≠ some '.' then throw (unexpected rest)
      let (minor, rest) ← directiveNumber (rest.drop 1)
      if endsField rest.head? then .ok (Directive.version major minor, rest) else throw .malformed
    else if name = "TAG" then
      let (handle, rest) ← tagHandle (skipSpaces rest)
      if rest.head? ≠ some ' ' then throw (unexpected rest)
      let (front, rest) ← tagUri (skipSpaces rest)
      if endsField rest.head? then .ok (Directive.handle handle front, rest) else throw .malformed
    else .ok (Directive.other, rest.dropWhile (!isBreak ·))
  let rest := skipSpaces rest
  let rest := if rest.head? = some '#' then rest.dropWhile (!isBreak ·) else rest
  if endsLine rest.head? then .ok (value, rest.drop 1) else throw .malformed

end Phrasebook.Yaml
