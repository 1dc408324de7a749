import Phrasebook.Decimal.Numeral
import Phrasebook.Fields
import Phrasebook.Json

/-!
# Reading JSON

A strict reader over the characters of a text. It takes `NaN`, `Infinity` and `-Infinity` for
numbers, no white space but space, tab, line feed and carriage return, and no control character in a
string. Three faults are of a kind of their own: an integer of more than a given number of digits, more
than a given number of objects and arrays inside one another, and a string with half of a surrogate pair,
which JSON can spell though no text holds it.

## Contents
- `Fault`: why a text is refused
- `maxDepth`: the number of objects and arrays that may be open
- `unescape`: the rest of a string literal
- `number`: a number literal
- `value`: a value of any kind
- `Json.read`: a whole text
-/

namespace Phrasebook.Json

/-- Why a text is not read. -/
inductive Fault where
  /-- The text is not JSON. -/
  | malformed
  /-- An integer has more digits than the limit. -/
  | longInteger
  /-- Too many objects and arrays are open. -/
  | tooDeep
  /-- A string holds half of a surrogate pair. -/
  | loneSurrogate
  deriving DecidableEq, Repr

/-- Whether a character may stand between the parts of a JSON text. -/
def isSpace (c : Char) : Bool := c = ' ' || c = '\t' || c = '\n' || c = '\r'

/-- The characters from the first one that is not white space. -/
def skipSpace (cs : List Char) : List Char := cs.dropWhile isSpace

/-! ## Strings -/

/-- The number that four hexadecimal digits spell. -/
def hexUnit? (a b c d : Char) : Option Nat :=
  if [a, b, c, d].all (isDigitOf 16) then some (natOfDigits 16 [a, b, c, d]) else none

/-- Whether a number is the first unit of a surrogate pair. -/
def isHighUnit (n : Nat) : Bool := 0xd800 ≤ n && n < 0xdc00

/-- Whether a number is the second unit of a surrogate pair. -/
def isLowUnit (n : Nat) : Bool := 0xdc00 ≤ n && n < 0xe000

/-- The character of a unit that stands alone. -/
def charOfUnit (n : Nat) : Except Fault Char :=
  if isHighUnit n || isLowUnit n then .error .loneSurrogate else .ok (Char.ofNat n)

/-- The character of the two units of a surrogate pair. -/
def charOfPair (high low : Nat) : Char :=
  Char.ofNat (0x10000 + (high - 0xd800) * 0x400 + (low - 0xdc00))

/-- The character that a letter after a backslash stands for. -/
def simpleEscape? : Char → Option Char
  | '"' => some '"'
  | '\\' => some '\\'
  | '/' => some '/'
  | 'b' => some '\x08'
  | 'f' => some '\x0c'
  | 'n' => some '\n'
  | 'r' => some '\r'
  | 't' => some '\t'
  | _ => none

/-- Reads the rest of a string after its opening quote; `acc` holds the characters read, last
first. -/
def unescape (acc : List Char) : List Char → Except Fault (String × List Char)
  | [] => .error .malformed
  | '"' :: rest => .ok (String.ofList acc.reverse, rest)
  | '\\' :: 'u' :: a :: b :: c :: d :: '\\' :: 'u' :: a' :: b' :: c' :: d' :: rest =>
    match hexUnit? a b c d, hexUnit? a' b' c' d' with
    | some unit, some next =>
      if isHighUnit unit && isLowUnit next then unescape (charOfPair unit next :: acc) rest
      else
        match charOfUnit unit with
        | .error fault => .error fault
        | .ok ch => unescape (ch :: acc) ('\\' :: 'u' :: a' :: b' :: c' :: d' :: rest)
    | _, _ => .error .malformed
  | '\\' :: 'u' :: a :: b :: c :: d :: rest =>
    match hexUnit? a b c d with
    | none => .error .malformed
    | some unit =>
      match charOfUnit unit with
      | .error fault => .error fault
      | .ok ch => unescape (ch :: acc) rest
  | '\\' :: c :: rest =>
    match simpleEscape? c with
    | none => .error .malformed
    | some c' => unescape (c' :: acc) rest
  | c :: rest => if c.toNat < 0x20 then .error .malformed else unescape (c :: acc) rest

/-! ## Numbers -/

/-- The digits of a fraction, when a point with at least one digit follows. -/
def fractionPart : List Char → Option (List Char × List Char)
  | '.' :: rest =>
    let digits := rest.takeWhile (isDigitOf 10)
    if digits.isEmpty then none else some (digits, rest.dropWhile (isDigitOf 10))
  | _ => none

/-- The exponent, when an exponent mark with at least one digit follows. -/
def exponentPart : List Char → Option (Int × List Char)
  | mark :: rest =>
    if mark = 'e' || mark = 'E' then
      let negative := rest.head? = some '-'
      let rest := if negative || rest.head? = some '+' then rest.drop 1 else rest
      let digits := rest.takeWhile (isDigitOf 10)
      if digits.isEmpty then none
      else
        let n : Int := natOfDigits 10 digits
        some (if negative then -n else n, rest.dropWhile (isDigitOf 10))
    else none
  | [] => none

/-- The digits before the point: a zero alone, or digits that do not start with a zero. -/
def wholePart : List Char → Option (List Char × List Char)
  | '0' :: rest => some (['0'], rest)
  | c :: rest =>
    if isDigitOf 10 c then
      some (c :: rest.takeWhile (isDigitOf 10), rest.dropWhile (isDigitOf 10))
    else none
  | [] => none

/-- Reads a number, an infinity or a NaN. -/
def number (limit : Option Nat) (cs : List Char) : Except Fault (Json × List Char) :=
  match cs with
  | 'N' :: 'a' :: 'N' :: rest => .ok (.float (0.0 / 0.0), rest)
  | 'I' :: 'n' :: 'f' :: 'i' :: 'n' :: 'i' :: 't' :: 'y' :: rest => .ok (.float (1.0 / 0.0), rest)
  | '-' :: 'I' :: 'n' :: 'f' :: 'i' :: 'n' :: 'i' :: 't' :: 'y' :: rest =>
    .ok (.float (-1.0 / 0.0), rest)
  | _ =>
    let negative := cs.head? = some '-'
    match wholePart (if negative then cs.drop 1 else cs) with
    | none => .error .malformed
    | some (whole, rest) =>
      let fraction := fractionPart rest
      let rest := (fraction.map Prod.snd).getD rest
      let exponent := exponentPart rest
      let rest := (exponent.map Prod.snd).getD rest
      if fraction.isNone && exponent.isNone then
        if limit.any (· < whole.length) then .error .longInteger
        else
          let n : Int := natOfDigits 10 whole
          .ok (.int (if negative then -n else n), rest)
      else
        let decimals := (fraction.map Prod.fst).getD []
        let power := (exponent.map Prod.fst).getD 0 - decimals.length
        let x := floatOfDecimal (natOfDigits 10 (whole ++ decimals)) power
        .ok (.float (if negative then -x else x), rest)

/-! ## Values -/

/-- The number of objects and arrays that may be open around a value: what a limit of a thousand nested
calls leaves to the reader of a bundle, which is called from nine others. -/
def maxDepth : Nat := 990

mutual

/-- Reads one value at the start of the characters, in which so many objects and arrays may still be
opened inside one another. The second number bounds the depth of calls. -/
def value (limit : Option Nat) (room : Nat) : Nat → List Char → Except Fault (Json × List Char)
  | 0, _ => .error .malformed
  | fuel + 1, cs =>
    match cs with
    | '"' :: rest => (unescape [] rest).map fun (s, rest) => (.str s, rest)
    | '\x7b' :: rest =>
      match room with
      | 0 => .error .tooDeep
      | room + 1 =>
        match skipSpace rest with
        | '\x7d' :: rest => .ok (.obj [], rest)
        | rest => members limit room fuel Fields.empty rest
    | '[' :: rest =>
      match room with
      | 0 => .error .tooDeep
      | room + 1 =>
        match skipSpace rest with
        | ']' :: rest => .ok (.arr [], rest)
        | rest => elements limit room fuel [] rest
    | 'n' :: 'u' :: 'l' :: 'l' :: rest => .ok (.null, rest)
    | 't' :: 'r' :: 'u' :: 'e' :: rest => .ok (.bool true, rest)
    | 'f' :: 'a' :: 'l' :: 's' :: 'e' :: rest => .ok (.bool false, rest)
    | cs => number limit cs

/-- Reads the elements of an array from the first one on; `acc` holds those read, last first. -/
def elements (limit : Option Nat) (room : Nat) :
    Nat → List Json → List Char → Except Fault (Json × List Char)
  | 0, _, _ => .error .malformed
  | fuel + 1, acc, cs =>
    match value limit room fuel cs with
    | .error e => .error e
    | .ok (v, rest) =>
      match skipSpace rest with
      | ',' :: rest => elements limit room fuel (v :: acc) (skipSpace rest)
      | ']' :: rest => .ok (.arr (v :: acc).reverse, rest)
      | _ => .error .malformed

/-- Reads the members of an object from the first name on; `acc` holds the fields read. -/
def members (limit : Option Nat) (room : Nat) :
    Nat → Fields Json → List Char → Except Fault (Json × List Char)
  | 0, _, _ => .error .malformed
  | fuel + 1, acc, cs =>
    match cs with
    | '"' :: rest =>
      match unescape [] rest with
      | .error e => .error e
      | .ok (name, rest) =>
        match skipSpace rest with
        | ':' :: rest =>
          match value limit room fuel (skipSpace rest) with
          | .error e => .error e
          | .ok (v, rest) =>
            match skipSpace rest with
            | ',' :: rest => members limit room fuel (acc.put name v) (skipSpace rest)
            | '\x7d' :: rest => .ok (.obj (acc.put name v).toList, rest)
            | _ => .error .malformed
        | _ => .error .malformed
    | _ => .error .malformed

end

/-- Reads a text that holds one value and white space around it. -/
def read (limit : Option Nat) (text : String) : Except Fault Json :=
  let cs := text.toList
  match value limit maxDepth (2 * cs.length + 2) (skipSpace cs) with
  | .error e => .error e
  | .ok (v, rest) => if (skipSpace rest).isEmpty then .ok v else .error .malformed

end Phrasebook.Json
