import Phrasebook.Decimal.Shortest

/-!
# Numerals

The texts of numbers: decimal digits of integers, and floats written with the fewest digits that read
back, positionally from `0.0001` up to below `10 ^ 16` and with an exponent elsewhere.

## Contents
- `floatText`: the text of a float
- `floatOfDecimal`: the float nearest to a decimal, with overflow to infinity
- `maxDigits`: the length of the longest integers
- `digitValue?`, `natOfDigits`: numbers from digits
-/

namespace Phrasebook

/-! ## Writing -/

/-- An exponent with its sign and at least two digits. -/
def exponentText (e : Int) : String :=
  let digits := toString e.natAbs
  let digits := if digits.length < 2 then "0" ++ digits else digits
  (if e < 0 then "-" else "+") ++ digits

/-- The text of a positive decimal without zeros at the end of its digits. -/
def decimalText (d : Decimal) : String :=
  let ds := Nat.toDigits 10 d.digits
  let point : Int := ds.length + d.exponent
  if -4 ≤ point - 1 ∧ point - 1 < 16 then
    if point ≤ 0 then
      "0." ++ String.ofList (List.replicate (-point).toNat '0' ++ ds)
    else if ds.length ≤ point.toNat then
      String.ofList (ds ++ List.replicate (point.toNat - ds.length) '0') ++ ".0"
    else
      String.ofList (ds.take point.toNat) ++ "." ++ String.ofList (ds.drop point.toNat)
  else
    let tail := ds.drop 1
    String.ofList (ds.take 1) ++ (if tail.isEmpty then "" else "." ++ String.ofList tail) ++
      "e" ++ exponentText (point - 1)

/-- The text of a float: the fewest digits that read back to it. -/
def floatText (x : Float) : String :=
  if x.isNaN then "nan"
  else
    let sign := if x.toBits >>> 63 = 0 then "" else "-"
    if x.isInf then sign ++ "inf"
    else match Binary.ofFloat? x with
      | none => sign ++ "0.0"
      | some b => sign ++ decimalText (shortest b)

/-! ## Reading -/

/-- The number of decimal digits that an integer may have where it is read or written. -/
def maxDigits : Nat := 4300

/-- The value of a digit in bases up to sixteen. -/
def digitValue? (c : Char) : Option Nat :=
  let n := c.toNat
  if 48 ≤ n ∧ n ≤ 57 then some (n - 48)
  else if 97 ≤ n ∧ n ≤ 102 then some (n - 87)
  else if 65 ≤ n ∧ n ≤ 70 then some (n - 55)
  else none

/-- Whether a character is a digit of the given base, at most sixteen. -/
def isDigitOf (base : Nat) (c : Char) : Bool :=
  match digitValue? c with
  | some v => v < base
  | none => false

/-- The number that digits of a base spell; any other character counts as a zero. -/
def natOfDigits (base : Nat) (digits : List Char) : Nat :=
  digits.foldl (fun n c => n * base + (digitValue? c).getD 0) 0

/-- The float nearest to `digits * 10 ^ exponent`: zero or infinite where that is out of range. -/
def floatOfDecimal (digits : Nat) (exponent : Int) : Float :=
  let magnitude : Int := (Nat.toDigits 10 digits).length + exponent
  if digits = 0 ∨ magnitude < -400 then 0.0
  else if 400 < magnitude then 1.0 / 0.0
  else Float.ofScientific digits (exponent < 0) exponent.natAbs

end Phrasebook
