/-!
# Shortest decimals

The decimal with the fewest digits that lies in the interval of reals which round to a given binary
fraction, and of those the nearest to it. The search is exact: on the grids of one digit, two digits
and so on, the two neighbours of the value are tried.

## Contents
- `Binary`: a positive number `mantissa * 2 ^ exponent` with its rounding interval
- `Decimal`: a positive number `digits * 10 ^ exponent`
- `shortest`: the search
- `Binary.ofFloat?`: the fraction that a finite float other than zero stands for
-/

namespace Phrasebook

/-- The positive number `digits * 10 ^ exponent`. -/
structure Decimal where
  /-- The significant digits, read as one number. -/
  digits : Nat
  /-- The power of ten of the last digit. -/
  exponent : Int
  deriving Repr, DecidableEq

/-- The positive number `mantissa * 2 ^ exponent`, as a binary floating-point format holds it. -/
structure Binary where
  /-- The significand. -/
  mantissa : Nat
  /-- The power of two of its last bit. -/
  exponent : Int
  /-- Whether the next smaller number of the format is only half a unit away. -/
  tightBelow : Bool

/-- A fraction `num / den` in exact arithmetic, compared by cross multiplication. -/
structure Ratio where
  /-- The numerator. -/
  num : Nat
  /-- The denominator. -/
  den : Nat

namespace Ratio

/-- Whether one fraction is at most another. -/
def le (a b : Ratio) : Bool := a.num * b.den ≤ b.num * a.den

/-- Whether one fraction is less than another. -/
def lt (a b : Ratio) : Bool := a.num * b.den < b.num * a.den

/-- The distance of two fractions. -/
def dist (a b : Ratio) : Ratio :=
  ⟨(a.num * b.den - b.num * a.den) + (b.num * a.den - a.num * b.den), a.den * b.den⟩

/-- The fraction `n * base ^ exponent`. -/
def scaled (base n : Nat) (exponent : Int) : Ratio :=
  if 0 ≤ exponent then ⟨n * Nat.pow base exponent.toNat, 1⟩
  else ⟨n, Nat.pow base (-exponent).toNat⟩

/-- The whole part of a fraction. -/
def floor (a : Ratio) : Nat := a.num / a.den

end Ratio

namespace Binary

/-- The number itself. -/
def value (b : Binary) : Ratio := Ratio.scaled 2 (4 * b.mantissa) (b.exponent - 2)

/-- The lower end of the interval of reals that round to the number. -/
def low (b : Binary) : Ratio :=
  Ratio.scaled 2 (4 * b.mantissa - if b.tightBelow then 1 else 2) (b.exponent - 2)

/-- The upper end of the interval of reals that round to the number. -/
def high (b : Binary) : Ratio := Ratio.scaled 2 (4 * b.mantissa + 2) (b.exponent - 2)

/-- Whether a real rounds to the number; the ends of the interval do when the significand is even. -/
def rounds (b : Binary) (r : Ratio) : Bool :=
  if b.mantissa % 2 = 0 then b.low.le r && r.le b.high else b.low.lt r && r.lt b.high

end Binary

namespace Decimal

/-- The decimal as a fraction. -/
def value (d : Decimal) : Ratio := Ratio.scaled 10 d.digits d.exponent

/-- The decimal without zeros at the end of its digits, by at most the given number of steps. -/
def trim : Nat → Decimal → Decimal
  | 0, d => d
  | steps + 1, d =>
    if d.digits ≠ 0 ∧ d.digits % 10 = 0 then trim steps ⟨d.digits / 10, d.exponent + 1⟩ else d

end Decimal

/-- The two decimals next to a fraction among the multiples of a power of ten. -/
def gridNeighbours (r : Ratio) (exponent : Int) : Decimal × Decimal :=
  let unit := Ratio.scaled 10 1 exponent
  let below := (Ratio.mk (r.num * unit.den) (r.den * unit.num)).floor
  (⟨below, exponent⟩, ⟨below + 1, exponent⟩)

/-- The nearer of the two grid neighbours that round to the number, the even one in a tie. -/
def gridChoice (b : Binary) (exponent : Int) : Option Decimal :=
  let (lower, upper) := gridNeighbours b.value exponent
  match b.rounds lower.value && 0 < lower.digits, b.rounds upper.value with
  | true, true =>
    let toLower := Ratio.dist b.value lower.value
    let toUpper := Ratio.dist b.value upper.value
    if toLower.lt toUpper || (toLower.le toUpper && lower.digits % 2 = 0) then some lower
    else some upper
  | true, false => some lower
  | false, true => some upper
  | false, false => none

/-- The power of ten above a fraction: the least `k` with `r < 10 ^ k`, looked for from a bound
downwards. -/
def leadingExponent (r : Ratio) : Nat → Int → Int
  | 0, k => k
  | steps + 1, k =>
    if r.lt (Ratio.scaled 10 1 (k - 1)) then leadingExponent r steps (k - 1) else k

/-- The decimal with the fewest digits that rounds to the number, and of those the nearest one. -/
def shortest (b : Binary) : Decimal :=
  let k := leadingExponent b.value 700 310
  let choices := (List.range 17).filterMap fun (n : Nat) => gridChoice b (k - 1 - n)
  (choices.headD ⟨b.mantissa, 0⟩).trim 17

/-- The fraction of a finite float other than zero, its sign left out. -/
def Binary.ofFloat? (x : Float) : Option Binary :=
  let field : Nat := (x.toBits >>> 52 &&& 0x7ff).toNat
  let fraction : Nat := (x.toBits &&& 0xfffffffffffff).toNat
  if field = 2047 then none
  else if field = 0 then
    if fraction = 0 then none else some ⟨fraction, -1074, false⟩
  else some ⟨0x10000000000000 + fraction, (field : Int) - 1075, fraction = 0 && field ≠ 1⟩

end Phrasebook
