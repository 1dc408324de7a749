import Phrasebook.Template

/-!
# Identifiers from arbitrary names

A key or placeholder name becomes an identifier by replacing what may not stand in one; a name that is
taken already gets the least free number.

## Contents
- `sanitize`: a name made an identifier that is not reserved
- `unique`: the least numbered variant of an identifier that is free
- `assign`: distinct identifiers for a list of names
-/

namespace Phrasebook.Identifier

/-- What is put in front of a name that starts with a digit or is empty. -/
def safePrefix : String := "k_"

/-- The character itself where it may stand in an identifier, an underscore elsewhere. -/
def cleanChar (c : Char) : Char := if Template.isNameChar c then c else '_'

/-- A name with every character that may not stand in an identifier replaced, and with something in
front where it could not start one. -/
def clean (front : String) (name : String) : String :=
  let cleaned := name.toList.map cleanChar
  match cleaned with
  | [] => front
  | c :: _ =>
    if c.isDigit then front ++ String.ofList cleaned else String.ofList cleaned

/-- A name made an identifier; one that is reserved gets an underscore at its end. -/
def sanitize (reserved : List String) (front : String) (name : String) : String :=
  let cleaned := clean front name
  if reserved.contains cleaned then cleaned ++ "_" else cleaned

/-- The variant of an identifier with a number. -/
def numbered (candidate : String) (n : Nat) : String := candidate ++ "_" ++ toString n

/-- The identifier itself if it is free, else its variant with the least free number from two on.
Among one number more than there are taken names, one is free. -/
def unique (candidate : String) (taken : List String) : String :=
  if taken.contains candidate then
    let number := (List.range (taken.length + 1)).find? fun i =>
      !taken.contains (numbered candidate (i + 2))
    numbered candidate (number.getD taken.length + 2)
  else candidate

/-- Identifiers for names in order, each made unique among the taken ones and those before it. -/
def assign (identifier : String → String) (taken : List String) : List String → List String
  | [] => []
  | name :: rest =>
    let chosen := unique (identifier name) taken
    chosen :: assign identifier (chosen :: taken) rest

end Phrasebook.Identifier
