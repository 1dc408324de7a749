import Phrasebook.Target.Basic

/-!
# Source text

Generated text as lines of pieces. A piece is either code, which stands as it is, or a text that is
written as a string literal of the target; only these depend on the contents of bundles.

## Contents
- `Source.Piece`, `Source.Line`: the parts
- `Source.listed`: pieces with a separator between them
- `Source.text`: the whole file
-/

namespace Phrasebook.Source

/-- A part of a line of generated text. -/
inductive Piece where
  /-- Code that stands as it is. -/
  | code (text : String)
  /-- A text to be written as a string literal. -/
  | literal (text : String)
  deriving DecidableEq, Repr

/-- A line of generated text, without its end. -/
abbrev Line := List Piece

/-- Groups of pieces with code between them. -/
def listed (separator : String) : List (List Piece) → List Piece
  | [] => []
  | [group] => group
  | group :: rest => group ++ .code separator :: listed separator rest

/-- Lines of code alone. -/
def codeLines (lines : List String) : List Line := lines.map fun s => [.code s]

/-- The characters of a piece. -/
def Piece.chars (target : Target) : Piece → List Char
  | .code text => text.toList
  | .literal text => target.quoteChars text.toList

/-- The characters of a line, with its end. -/
def lineChars (target : Target) (line : Line) : List Char :=
  line.flatMap (Piece.chars target) ++ ['\n']

/-- The lines as text, each with its end. -/
def text (target : Target) (lines : List Line) : String :=
  String.ofList (lines.flatMap (lineChars target))

end Phrasebook.Source
