import Phrasebook.Decimal.Numeral

/-!
# Keys and texts in TOML

The parts of a line: blanks and comments, keys, and texts between quotes.

## Contents
- `Fault`: why a text is refused
- `skipGap`, `skipComment`, `skipFiller`: what stands between the parts
- `basicText`, `literalText`: texts between double and single quotes
- `key`: a dotted key
-/

namespace Phrasebook.Toml

/-- Why a text is not read. -/
inductive Fault where
  /-- The text is not TOML. -/
  | malformed
  /-- An integer has too many digits. -/
  | longInteger
  /-- Too many arrays and tables are open. -/
  | tooDeep
  deriving DecidableEq, Repr

/-- Whether a character is a control character other than a tab. -/
def isControl (c : Char) : Bool := (c.toNat < 0x20 && c ≠ '\t') || c.toNat = 0x7f

/-- Whether a character is a space or a tab. -/
def isGap (c : Char) : Bool := c = ' ' || c = '\t'

/-- Skips spaces and tabs. -/
def skipGap (cs : List Char) : List Char := cs.dropWhile isGap

/-- Skips a comment, up to the end of its line. -/
def skipComment (cs : List Char) : Except Fault (List Char) :=
  if cs.head? = some '#' then
    if (cs.takeWhile (· ≠ '\n')).any isControl then .error .malformed
    else .ok (cs.dropWhile (· ≠ '\n'))
  else .ok cs

/-- Skips blanks, line breaks and comments. The first argument bounds the number of comments. -/
def skipFiller : Nat → List Char → Except Fault (List Char)
  | 0, cs => .ok cs
  | fuel + 1, cs =>
    let rest := cs.dropWhile fun c => isGap c || c = '\n'
    if rest.head? = some '#' then
      match skipComment rest with
      | .error fault => .error fault
      | .ok rest => skipFiller fuel rest
    else .ok rest

/-! ## Texts -/

/-- The character that a letter after a backslash stands for. -/
def simpleEscape? : Char → Option Char
  | 'b' => some '\x08'
  | 't' => some '\t'
  | 'n' => some '\n'
  | 'f' => some '\x0c'
  | 'r' => some '\r'
  | '"' => some '"'
  | '\\' => some '\\'
  | _ => none

/-- Reads the digits of a code escape. -/
def codeEscape (n : Nat) (cs : List Char) : Except Fault (List Char × List Char) :=
  let digits := cs.take n
  let code := natOfDigits 16 digits
  if digits.length = n ∧ digits.all (isDigitOf 16) ∧ code.isValidChar then
    .ok ([Char.ofNat code], cs.drop n)
  else .error .malformed

/-- Reads an escape after its backslash: the characters it stands for, and what follows. In a text of
several lines a backslash at the end of a line takes the blanks and breaks after it away. -/
def escape (multiline : Bool) (cs : List Char) : Except Fault (List Char × List Char) :=
  match cs with
  | [] => .error .malformed
  | c :: rest =>
    if multiline && (isGap c || c = '\n') then
      match skipGap (c :: rest) with
      | [] => .ok ([], [])
      | c :: rest =>
        if c = '\n' then .ok ([], rest.dropWhile fun c => isGap c || c = '\n')
        else .error .malformed
    else if c = 'u' then codeEscape 4 rest
    else if c = 'U' then codeEscape 8 rest
    else
      match simpleEscape? c with
      | none => .error .malformed
      | some c' => .ok ([c'], rest)

/-- Whether three times the same character stands at the front. -/
def startsTriple (c : Char) (cs : List Char) : Bool := cs.take 3 = [c, c, c]

/-- Reads a text between double quotes after what opens it; `acc` holds the characters read, last
first. The first argument bounds their number. -/
def basicText (multiline : Bool) : Nat → List Char → List Char → Except Fault (String × List Char)
  | 0, _, _ => .error .malformed
  | _, _, [] => .error .malformed
  | fuel + 1, acc, c :: rest =>
    if c = '"' then
      if !multiline then .ok (String.ofList acc.reverse, rest)
      else if startsTriple '"' (c :: rest) then .ok (String.ofList acc.reverse, rest.drop 2)
      else basicText multiline fuel (c :: acc) rest
    else if c = '\\' then
      match escape multiline rest with
      | .error fault => .error fault
      | .ok (chars, rest) => basicText multiline fuel (chars.reverse ++ acc) rest
    else if isControl c && !(multiline && c = '\n') then .error .malformed
    else basicText multiline fuel (c :: acc) rest

/-- Reads a text between single quotes after the opening one. -/
def literalText (cs : List Char) : Except Fault (String × List Char) :=
  let text := cs.takeWhile (· ≠ '\'')
  match cs.dropWhile (· ≠ '\'') with
  | [] => .error .malformed
  | _ :: rest => if text.any isControl then .error .malformed else .ok (String.ofList text, rest)

/-- Reads a text of several lines between single quotes after the opening ones; `acc` holds the
characters read, last first. -/
def literalLines (acc : List Char) : List Char → Except Fault (String × List Char)
  | [] => .error .malformed
  | c :: rest =>
    if startsTriple '\'' (c :: rest) then .ok (String.ofList acc.reverse, rest.drop 2)
    else if isControl c && c ≠ '\n' then .error .malformed
    else literalLines (c :: acc) rest

/-- Takes up to two quotes after the closing ones into a text of several lines. -/
def withQuotes (quote : Char) : String × List Char → String × List Char
  | (s, cs) =>
    let extra := (cs.take 2).takeWhile (· = quote)
    (s ++ String.ofList extra, cs.drop extra.length)

/-- Skips a line break at the front. -/
def skipBreak (cs : List Char) : List Char := if cs.head? = some '\n' then cs.drop 1 else cs

/-- Reads a text between double quotes, of one or of several lines. -/
def quotedText (cs : List Char) : Except Fault (String × List Char) :=
  if startsTriple '"' cs then
    (basicText true (cs.length + 1) [] (skipBreak (cs.drop 3))).map (withQuotes '"')
  else basicText false (cs.length + 1) [] (cs.drop 1)

/-- Reads a text between single quotes, of one or of several lines. -/
def rawText (cs : List Char) : Except Fault (String × List Char) :=
  if startsTriple '\'' cs then
    (literalLines [] (skipBreak (cs.drop 3))).map (withQuotes '\'')
  else literalText (cs.drop 1)

/-! ## Keys -/

/-- Whether a character may stand in a key without quotes. -/
def isKeyChar (c : Char) : Bool := c.isAlphanum || c = '-' || c = '_'

/-- Reads a part of a key. -/
def keyPart (cs : List Char) : Except Fault (String × List Char) :=
  match cs with
  | '\'' :: rest => literalText rest
  | '"' :: rest => basicText false (cs.length + 1) [] rest
  | _ =>
    let bare := cs.takeWhile isKeyChar
    if bare.isEmpty then .error .malformed
    else .ok (String.ofList bare, cs.dropWhile isKeyChar)

/-- Reads the parts of a key and the blanks after it. The first argument bounds their number. -/
def keyParts : Nat → List Char → Except Fault (List String × List Char)
  | 0, _ => .error .malformed
  | fuel + 1, cs =>
    match keyPart cs with
    | .error fault => .error fault
    | .ok (part, rest) =>
      match skipGap rest with
      | '.' :: rest => (keyParts fuel (skipGap rest)).map fun (parts, rest) => (part :: parts, rest)
      | rest => .ok ([part], rest)

/-- Reads a dotted key and the blanks after it. -/
def key (cs : List Char) : Except Fault (List String × List Char) := keyParts (cs.length + 1) cs

end Phrasebook.Toml
