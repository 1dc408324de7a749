import Phrasebook.Decimal.Numeral
import Phrasebook.Json
import Phrasebook.Template
import Phrasebook.Text.Quoted

/-!
# The text of a value

How a value is written where it takes the place of a token. A string is written as it is, a null as
nothing; inside an array or object strings are quoted and a null is written `None`.

## Contents
- `Json.shown`: the form inside an array or object
- `Json.display`: the form on its own
- `Template.interpolate`: a template with values for its names
-/

namespace Phrasebook.Json

mutual

/-- A value as a part of an array or object. -/
def shown : Json → String
  | null => "None"
  | bool true => "True"
  | bool false => "False"
  | int i => toString i
  | float x => floatText x
  | str s => Text.quoted s
  | arr items => "[" ++ ", ".intercalate (shownItems items) ++ "]"
  | obj fields => "\x7b" ++ ", ".intercalate (shownFields fields) ++ "\x7d"

/-- The elements of an array. -/
def shownItems : List Json → List String
  | [] => []
  | v :: rest => shown v :: shownItems rest

/-- The fields of an object, each as its quoted name and its value. -/
def shownFields : List (String × Json) → List String
  | [] => []
  | (name, v) :: rest => (Text.quoted name ++ ": " ++ shown v) :: shownFields rest

end

/-- A value on its own. -/
def display : Json → String
  | null => ""
  | str s => s
  | v => shown v

end Phrasebook.Json

/-- The text with every token replaced by the value given for its name; a name without a value leaves
nothing. -/
def Phrasebook.Template.interpolate (arguments : List (String × Json)) (text : String) : String :=
  fill text fun name => ((arguments.lookup name).map Json.display).getD ""
