import Phrasebook.Text.Base64
import Phrasebook.Text.Case
import Phrasebook.Text.Quoted
import Phrasebook.Yaml.Number

/-!
# Scalar values

The value that the text of a scalar stands for, by its type.

## Contents
- `Scalar`: the values
- `Scalar.ofText?`: from a type and a text
- `Scalar.isFalse`: the values that count as nothing
- `Scalar.shown`, `Scalar.same`: scalars as keys
-/

namespace Phrasebook.Yaml

/-- The value of a scalar. -/
inductive Scalar where
  | null
  | bool (b : Bool)
  | int (i : Int)
  | float (x : Float)
  /-- The word that stands for no number. -/
  | nan
  | text (s : String)
  | bytes (b : ByteArray)
  | timestamp (t : Timestamp)
  deriving Inhabited

namespace Scalar

/-! ## From texts -/

/-- The truth value that a text is a word for. -/
def boolOfText (s : String) : Except Fault Bool :=
  let word := Text.toSmall s
  if ["yes", "true", "on"].contains word then .ok true
  else if ["no", "false", "off"].contains word then .ok false
  else .error (.unknownWord word)

/-- The bytes that a text spells in base 64. -/
def bytesOfText (s : String) : Except Fault ByteArray :=
  if s.toList.all fun c => c.toNat < 128 then
    match Text.decodeBase64 s with
    | none => .error .malformed
    | some b => .ok b
  else .error .malformed

/-- The timestamp that a text spells. -/
def timestampOfText (s : String) : Except Fault Timestamp :=
  match Timestamp.parse? (dropLastBreak s.toList) with
  | none => .error .wrongShape
  | some t => if t.isValid then .ok t else .error .outOfRange

/-- The value of a scalar of a type, or nothing for a type that no scalar has. -/
def ofText? (type : ValueType) (s : String) : Option (Except Fault Scalar) :=
  match type with
  | .null => some (.ok null)
  | .bool => some ((boolOfText s).map bool)
  | .int => some ((Number.integer s).map int)
  | .float => some ((Number.float s).map fun x => x.elim nan float)
  | .binary => some ((bytesOfText s).map bytes)
  | .timestamp => some ((timestampOfText s).map timestamp)
  | .text => some (.ok (text s))
  | _ => none

/-- Whether a value counts as nothing. -/
def isFalse : Scalar → Bool
  | null => true
  | bool b => !b
  | int i => i = 0
  | float x => x == 0.0
  | nan => false
  | text s => s.isEmpty
  | bytes b => b.isEmpty
  | timestamp _ => false

/-! ## Keys -/

/-- A byte as it is shown between quotes. -/
def shownByte (quote : Char) (b : UInt8) : List Char :=
  let c := Char.ofNat b.toNat
  if c = quote || c = '\\' then ['\\', c]
  else if c = '\n' then ['\\', 'n']
  else if c = '\r' then ['\\', 'r']
  else if c = '\t' then ['\\', 't']
  else if b < 0x20 || 0x7f ≤ b then '\\' :: 'x' :: Text.hexDigits 2 b.toNat
  else [c]

/-- Bytes as they are shown between quotes. -/
def shownBytes (b : ByteArray) : String :=
  let quote := if b.toList.contains 39 && !b.toList.contains 34 then '"' else '\''
  String.ofList ('b' :: quote :: b.toList.flatMap (shownByte quote) ++ [quote])

/-- An integer in decimal, unless it has too many digits. -/
def shownInt (i : Int) : String :=
  if Nat.pow 10 maxDigits ≤ i.natAbs then "<unprintable int object>" else toString i

/-- A key that is no text, as it is shown. One with a point in it stands between grave accents. -/
def shown (v : Scalar) : String :=
  let shown := match v with
    | null => "None"
    | bool b => if b then "1" else "0"
    | int i => shownInt i
    | float x => floatText x
    | nan => "nan"
    | text s => s
    | bytes b => shownBytes b
    | timestamp t => t.shown
  if shown.toList.contains '.' then "\x60" ++ shown ++ "\x60" else shown

/-- The integer that a float is, if it is one. -/
def wholeOf? (x : Float) : Option Int :=
  let apply (n : Nat) : Int := if x < 0.0 then -n else n
  match Binary.ofFloat? x with
  | none => if x == 0.0 then some 0 else none
  | some b =>
    let unit := Nat.pow 2 b.exponent.natAbs
    if 0 ≤ b.exponent then some (apply (b.mantissa * unit))
    else if b.mantissa % unit = 0 then some (apply (b.mantissa / unit))
    else none

/-- The integer that a value counts as when keys are compared: truth values count as one and zero. -/
def number? : Scalar → Option Int
  | bool b => some (if b then 1 else 0)
  | int i => some i
  | float x => wholeOf? x
  | _ => none

/-- Whether two values are the same key. A float that is no number is no key but its own. -/
def same (a b : Scalar) : Bool :=
  match a.number?, b.number? with
  | some m, some n => m = n
  | none, none =>
    match a, b with
    | null, null => true
    | nan, nan => true
    | float x, float y => x == y
    | text s, text t => s = t
    | bytes s, bytes t => s.data = t.data
    | timestamp s, timestamp t => s.same t
    | _, _ => false
  | _, _ => false

end Scalar

end Phrasebook.Yaml
