import Phrasebook.Decimal.Numeral
import Phrasebook.Text.Blank
import Phrasebook.Text.Digit
import Phrasebook.Text.Split
import Phrasebook.Yaml.Chars
import Phrasebook.Yaml.Type

/-!
# Numbers in a YAML text

The integers and floats that texts spell. Underscores count for nothing. After a sign the front of the
text tells the base; what then stands between colons, or in place of all digits, is a numeral with
blanks around it and a sign of its own.

## Contents
- `numeral`: the characters of a numeral
- `Number.integer`: the integer that a text spells
- `Number.float`: the float that a text spells
-/

namespace Phrasebook.Yaml

/-! ## Numerals -/

/-- Whether a character is one of the blanks that may stand around a numeral. -/
def isNumeralBlank (c : Char) : Bool := c = ' ' || ('\t' ≤ c && c ≤ '\r')

/-- The character that counts in a numeral for another one: an ASCII digit for a digit of any script,
and a space for a blank outside of ASCII. -/
def numeralChar (c : Char) : Char :=
  if c.toNat < 128 then c
  else if Text.isBlank c then ' '
  else ((Text.decimalValue? c).map Nat.digitChar).getD c

/-- The characters of a numeral without the blanks at both ends. -/
def numeral (cs : List Char) : List Char :=
  let front := (cs.map numeralChar).dropWhile isNumeralBlank
  (front.reverse.dropWhile isNumeralBlank).reverse

/-- The sign of a number and the characters after it. -/
def signed (cs : List Char) : Int × List Char :=
  (if cs.head? = some '-' then -1 else 1, dropSign cs)

/-- The characters without underscores. -/
def dropUnderscores (s : String) : List Char := s.toList.filter (· ≠ '_')

namespace Number

/-! ## Integers -/

/-- The characters without the mark of a base at their front. -/
def dropBaseMark (base : Nat) : List Char → List Char
  | '0' :: c :: rest =>
    let marks := if base = 2 then ['b', 'B'] else if base = 8 then ['o', 'O'] else
      if base = 16 then ['x', 'X'] else []
    if marks.contains c then rest else '0' :: c :: rest
  | cs => cs

/-- The integer that a numeral of a base spells. One of base ten may not have too many digits. -/
def inBase (base : Nat) (cs : List Char) : Except Fault Int :=
  let (sign, digits) := signed (numeral cs)
  let digits := dropBaseMark base digits
  if digits.isEmpty || !digits.all (isDigitOf base) then .error .outOfRange
  else if base = 10 && maxDigits < digits.length then .error .outOfRange
  else .ok (sign * natOfDigits base digits)

/-- The integer that a text spells: in base two after `0b`, sixteen after `0x`, eight after a zero,
sixty in parts between colons, and ten otherwise. -/
def integer (s : String) : Except Fault Int :=
  let (sign, cs) := signed (dropUnderscores s)
  let magnitude : Except Fault Int := match cs with
    | [] => .error .noDigits
    | ['0'] => .ok 0
    | '0' :: 'b' :: rest => inBase 2 rest
    | '0' :: 'x' :: rest => inBase 16 rest
    | '0' :: rest => inBase 8 ('0' :: rest)
    | cs =>
      if cs.contains ':' then do
        let parts ← (Text.splitOn ':' cs).mapM (inBase 10)
        .ok (parts.foldl (fun n part => n * 60 + part) 0)
      else inBase 10 cs
  magnitude.map (sign * ·)

/-! ## Floats -/

/-- The exponent at the end of a numeral: none where nothing is left of it. -/
def exponent? : List Char → Option Int
  | [] => some 0
  | 'e' :: rest =>
    let (sign, digits) := signed rest
    if digits.isEmpty || !digits.all Char.isDigit then none
    else some (sign * natOfDigits 10 digits)
  | _ => none

/-- The float that a numeral in small letters spells. -/
def decimal (cs : List Char) : Except Fault Float :=
  let (sign, cs) := signed (numeral cs)
  let apply (x : Float) : Float := if sign < 0 then -x else x
  let word := String.ofList cs
  if word = "inf" || word = "infinity" then .ok (apply (1.0 / 0.0))
  else if word = "nan" then .ok (0.0 / 0.0)
  else
    let whole := cs.takeWhile Char.isDigit
    let rest := cs.dropWhile Char.isDigit
    let (decimals, rest) := match rest with
      | '.' :: rest => (rest.takeWhile Char.isDigit, rest.dropWhile Char.isDigit)
      | rest => ([], rest)
    match exponent? rest with
    | none => .error .outOfRange
    | some e =>
      if whole.isEmpty && decimals.isEmpty then .error .outOfRange
      else .ok (apply (floatOfDecimal (natOfDigits 10 (whole ++ decimals)) (e - decimals.length)))

/-- Adds parts in base sixty to a sum, smallest part first; `power` is what the first one counts. -/
def addParts (power : Nat) (sum : Float) : List Float → Except Fault Float
  | [] => .ok sum
  | part :: parts =>
    let unit := floatOfDecimal power 0
    if unit.isInf then .error .overflow else addParts (60 * power) (sum + part * unit) parts

/-- The float that a text spells, or nothing for the word that stands for no number: a word after a
point, parts between colons in base sixty, and a decimal otherwise. -/
def float (s : String) : Except Fault (Option Float) :=
  let chars := (dropUnderscores s).map Char.toLower
  let (sign, cs) := signed chars
  let word := String.ofList cs
  let apply (x : Float) : Float := if sign < 0 then -x else x
  if chars.isEmpty then .error .noDigits
  else if word = ".inf" then .ok (some (apply (1.0 / 0.0)))
  else if word = ".nan" then .ok none
  else if cs.contains ':' then do
    let parts ← (Text.splitOn ':' cs).mapM decimal
    let sum ← addParts 1 0.0 parts.reverse
    .ok (some (apply sum))
  else (decimal cs).map fun x => some (apply x)

end Number

end Phrasebook.Yaml
