/-!
# Field names of a bundle

The marks at the front of a field name say what the field holds: two of them the bundle's own
metadata, one the metadata of a key, none a text.

## Contents
- `FieldName`: a classified name
- `FieldName.classify`: the classification
-/

namespace Phrasebook

/-- What the field of a name holds. -/
inductive FieldName where
  /-- Metadata of the bundle itself. -/
  | document (name : String)
  /-- Metadata of a key. -/
  | metadata (key : String)
  /-- The text of a key. -/
  | key (key : String)
  deriving DecidableEq, Repr

namespace FieldName

/-- Classifies the characters of a name. -/
def ofChars : List Char → FieldName
  | '@' :: '@' :: rest => document (String.ofList rest)
  | '@' :: rest => metadata (String.ofList rest)
  | cs => key (String.ofList cs)

/-- Classifies a name by the marks at its front. -/
def classify (name : String) : FieldName := ofChars name.toList

end FieldName

end Phrasebook
