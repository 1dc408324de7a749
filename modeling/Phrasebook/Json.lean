/-!
# JSON values

Values of a bundle file. Integers are exact and of any size, apart from floats; the fields of an
object keep their order and no name is repeated in what the reader builds.

## Contents
- `Json`: the type
- `Json.field?`, `Json.text?`, `Json.fields?`: views
-/

namespace Phrasebook

/-- A JSON value. -/
inductive Json where
  | null
  | bool (b : Bool)
  /-- A number written without fraction and exponent. -/
  | int (i : Int)
  /-- A number written with a fraction or an exponent, a NaN or an infinity. -/
  | float (x : Float)
  | str (s : String)
  | arr (items : List Json)
  /-- The fields in order, no name twice. -/
  | obj (fields : List (String × Json))
  deriving Inhabited

namespace Json

/-- The fields of an object. -/
def fields? : Json → Option (List (String × Json))
  | obj fields => some fields
  | _ => none

/-- A string's text. -/
def text? : Json → Option String
  | str s => some s
  | _ => none

/-- The value of an object's field. -/
def field? (v : Json) (name : String) : Option Json :=
  v.fields?.bind (·.lookup name)

end Json

end Phrasebook
