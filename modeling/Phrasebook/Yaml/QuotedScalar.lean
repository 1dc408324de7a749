import Phrasebook.Decimal.Numeral
import Phrasebook.Yaml.Cursor

/-!
# Quoted scalars

Scalars between single or double quotes. A line break inside is folded: it counts as a space, and each
empty line after it as a line break. Between double quotes a backslash starts an escape.

## Contents
- `foldBreaks`: the empty lines after a line break
- `escape`: one escape
- `quotedScalar`: the rest of a scalar after its opening quote
-/

namespace Phrasebook.Yaml

/-- Reads the empty lines after a line break and the blanks before what follows them; `acc` holds
the breaks read, last first. The first argument bounds the number of lines. -/
def foldBreaks : Nat → List Char → Cursor → Except Fault (List Char × Cursor)
  | 0, _, _ => .error .malformed
  | fuel + 1, acc, c =>
    if isAtMarker c.rest then .error (if (c.rest.drop 3).isEmpty then .unfinished else .malformed)
    else
      let c := c.skipWhile isGap
      match c.peek with
      | none => .ok (acc.reverse, c)
      | some b =>
        if isBreak b then foldBreaks fuel (breakText b :: acc) c.next else .ok (acc.reverse, c)

/-- The characters that a line break and the empty lines after it come to. -/
def folded (c : Char) (breaks : List Char) : List Char :=
  if breakText c ≠ '\n' then breakText c :: breaks
  else if breaks.isEmpty then [' ']
  else breaks

/-- The character that a letter after a backslash stands for. -/
def namedEscape? : Char → Option Char
  | '0' => some '\x00'
  | 'a' => some '\x07'
  | 'b' => some '\x08'
  | 't' => some '\t'
  | '\t' => some '\t'
  | 'n' => some '\n'
  | 'v' => some '\x0b'
  | 'f' => some '\x0c'
  | 'r' => some '\r'
  | 'e' => some '\x1b'
  | ' ' => some ' '
  | '"' => some '"'
  | '\\' => some '\\'
  | '/' => some '/'
  | 'N' => some '\x85'
  | '_' => some '\xa0'
  | 'L' => some '\u2028'
  | 'P' => some '\u2029'
  | _ => none

/-- The number of hexadecimal digits after the letter of a code escape. -/
def codeLength? : Char → Option Nat
  | 'x' => some 2
  | 'u' => some 4
  | 'U' => some 8
  | _ => none

/-- The character of a code point. -/
def charOfCode (n : Nat) : Except Fault Char :=
  if 0x7fffffff < n then .error .overflow
  else if 0x10ffff < n then .error .outOfRange
  else if 0xd800 ≤ n ∧ n ≤ 0xdfff then .error .loneSurrogate
  else .ok (Char.ofNat n)

/-- Reads the code of a code escape: so many hexadecimal digits. -/
def codeEscape (length : Nat) (c : Cursor) : Except Fault Char :=
  let digits := c.rest.take length
  if !digits.all (isDigitOf 16) then .error .malformed
  else if digits.length < length then .error .unfinished
  else charOfCode (natOfDigits 16 digits)

/-- Reads an escape after its backslash: the characters it stands for, and the position after it. The
first argument bounds the number of lines. -/
def escape (fuel : Nat) (c : Cursor) : Except Fault (List Char × Cursor) :=
  match c.peek with
  | none => .error .unfinished
  | some ch =>
    match namedEscape? ch, codeLength? ch with
    | some named, _ => .ok ([named], c.next)
    | none, some length => (codeEscape length c.next).map fun coded => ([coded], c.skip (length + 1))
    | none, none => if isBreak ch then foldBreaks fuel [] c.next else .error .malformed

/-- Reads a scalar after its opening quote; `acc` holds the characters read, last first. The first
argument bounds the number of characters. -/
def quotedScalar (double : Bool) : Nat → List Char → Cursor → Except Fault (String × Cursor)
  | 0, _, _ => .error .malformed
  | fuel + 1, acc, c =>
    match c.peek with
    | none => .error .unfinished
    | some ch =>
      if !double && ch = '\'' then
        if c.peekSecond = some '\'' then quotedScalar double fuel ('\'' :: acc) (c.skip 2)
        else .ok (String.ofList acc.reverse, c.next)
      else if double && ch = '"' then .ok (String.ofList acc.reverse, c.next)
      else if double && ch = '\\' then
        match escape fuel c.next with
        | .error fault => .error fault
        | .ok (chars, c) => quotedScalar double fuel (chars.reverse ++ acc) c
      else if isGap ch || isBreak ch then
        let gap := c.rest.takeWhile isGap
        let after := c.skip gap.length
        match after.peek with
        | none => .error .unfinished
        | some b =>
          if isBreak b then
            match foldBreaks fuel [] after.next with
            | .error fault => .error fault
            | .ok (breaks, c) => quotedScalar double fuel ((folded b breaks).reverse ++ acc) c
          else quotedScalar double fuel (gap.reverse ++ acc) after
      else quotedScalar double fuel (ch :: acc) c.next

end Phrasebook.Yaml
