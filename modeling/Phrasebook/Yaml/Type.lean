import Phrasebook.Decimal.Numeral
import Phrasebook.Text.Split
import Phrasebook.Yaml.Timestamp

/-!
# Types of YAML values

The type of a value is named by its tag; a scalar without quotes and tag is given one by its form.

## Contents
- `ValueType`: the types, and `ofTag`
- `isBoolWord`, `isNullWord`, `isInteger`, `isFloat`: the forms of plain scalars
- `ValueType.ofPlain`: the type of a plain scalar
-/

namespace Phrasebook.Yaml

/-- The type of a value. -/
inductive ValueType where
  | null
  | bool
  | int
  | float
  | binary
  | timestamp
  | text
  | sequence
  | mapping
  | set
  | orderedMap
  | pairs
  /-- The key of a pair whose value is merged into the mapping. -/
  | merge
  /-- The key of the value that stands for a whole mapping. -/
  | default
  | unknown
  deriving DecidableEq, Repr

namespace ValueType

/-- What the tag of a known type starts with. -/
def tagFront : String := "tag:yaml.org,2002:"

/-- The last words of the tags of the known types. -/
def tagNames : List (String × ValueType) :=
  [("null", null), ("bool", bool), ("int", int), ("float", float), ("binary", binary),
    ("timestamp", timestamp), ("str", text), ("seq", sequence), ("map", mapping), ("set", set),
    ("omap", orderedMap), ("pairs", pairs), ("merge", merge), ("value", default)]

/-- The type that a tag names. -/
def ofTag (tag : String) : ValueType :=
  ((tagNames.map fun (name, type) => (tagFront ++ name, type)).lookup tag).getD unknown

end ValueType

/-! ## The forms of plain scalars -/

/-- A word in small letters, with a capital, and in capitals. -/
def cased (word : String) : List String := [word, word.capitalize, word.toUpper]

/-- Whether a text is a word for a truth value. -/
def isBoolWord (s : String) : Bool :=
  (["yes", "no", "true", "false", "on", "off"].flatMap cased).contains s

/-- Whether a text is a word for no value. -/
def isNullWord (s : String) : Bool := ("" :: "~" :: cased "null").contains s

/-- The characters after a sign, if there is one. -/
def dropSign : List Char → List Char
  | '+' :: cs => cs
  | '-' :: cs => cs
  | cs => cs

/-- Whether characters are digits of a base and underscores. -/
def areDigits (base : Nat) (cs : List Char) : Bool := cs.all fun c => isDigitOf base c || c = '_'

/-- Whether characters are a digit and then digits and underscores. -/
def startsDigits (cs : List Char) : Bool :=
  match cs with
  | c :: rest => c.isDigit && areDigits 10 rest
  | [] => false

/-- Whether a part of a number in base sixty is one: up to two digits below sixty. -/
def isSixtieth : List Char → Bool
  | [d] => d.isDigit
  | [t, d] => '0' ≤ t && t ≤ '5' && d.isDigit
  | _ => false

/-- Whether characters are a whole number, with or without parts in base sixty after it. -/
def isSexagesimal (cs : List Char) : Bool :=
  match Text.splitOn ':' cs with
  | first :: second :: rest => startsDigits first && (second :: rest).all isSixtieth
  | _ => false

/-- Whether characters have the form of an integer: in base two, eight, ten, sixteen or sixty. -/
def isInteger (cs : List Char) : Bool :=
  match dropSign cs with
  | ['0'] => true
  | '0' :: 'b' :: rest => !rest.isEmpty && areDigits 2 rest
  | '0' :: 'x' :: rest => !rest.isEmpty && areDigits 16 rest
  | '0' :: rest => areDigits 8 rest
  | cs => startsDigits cs || isSexagesimal cs

/-- Whether characters are nothing, or an exponent with its sign. -/
def isExponent : List Char → Bool
  | [] => true
  | mark :: sign :: digits =>
    (mark = 'e' || mark = 'E') && (sign = '+' || sign = '-') && !digits.isEmpty &&
      digits.all Char.isDigit
  | _ => false

/-- Whether a character is neither an exponent's mark. -/
def isBeforeExponent (c : Char) : Bool := !(c = 'e' || c = 'E')

/-- Whether characters have the form of a float. A point is always needed. -/
def isFloat (cs : List Char) : Bool :=
  let s := String.ofList cs
  let whole := (dropSign cs).takeWhile (· ≠ '.')
  let fraction := ((dropSign cs).dropWhile (· ≠ '.')).drop 1
  let decimals := fraction.takeWhile isBeforeExponent
  let exponent := fraction.dropWhile isBeforeExponent
  if !cs.contains '.' then false
  else if [".nan", ".NaN", ".NAN"].contains s then true
  else if [".inf", ".Inf", ".INF"].contains (String.ofList (dropSign cs)) then true
  else if whole.isEmpty then
    cs.head? = some '.' && startsDigits decimals && isExponent exponent
  else if startsDigits whole then areDigits 10 decimals && isExponent exponent
  else isSexagesimal whole && areDigits 10 fraction

/-- The characters without a line break at their end. -/
def dropLastBreak (cs : List Char) : List Char :=
  if cs.getLast? = some '\n' then cs.dropLast else cs

/-- The type of a scalar without quotes and tag. -/
def ValueType.ofPlain (s : String) : ValueType :=
  let cs := dropLastBreak s.toList
  let word := String.ofList cs
  if isNullWord word && (s.isEmpty || !cs.isEmpty) then .null
  else if isBoolWord word then .bool
  else if isInteger cs then .int
  else if isFloat cs then .float
  else if (Timestamp.parse? cs).any Timestamp.isPlain then .timestamp
  else if word = "<<" then .merge
  else if word = "=" then .default
  else if ["!", "&", "*"].contains word then .unknown
  else .text

end Phrasebook.Yaml
