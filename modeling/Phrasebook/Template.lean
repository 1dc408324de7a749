import Phrasebook.Fields

/-!
# Templates

A text is a template: every `{name}` in it, where the name is an ASCII identifier, is a token that an
argument takes the place of. All else, also a brace that is no part of a token, stands for itself.

## Contents
- `isNameStart`, `isNameChar`: the characters of an identifier
- `Piece`, `pieces`: a text cut into characters and tokens
- `names`: the names of the tokens
- `fill`: the text with every token replaced
-/

namespace Phrasebook.Template

/-- Whether an identifier may start with the character. -/
def isNameStart (c : Char) : Bool := c.isAlpha || c = '_'

/-- Whether the character may stand in an identifier. -/
def isNameChar (c : Char) : Bool := c.isAlphanum || c = '_'

/-- A part of a template. -/
inductive Piece where
  /-- A character that stands for itself. -/
  | char (c : Char)
  /-- A token, by its name. -/
  | token (name : String)
  deriving DecidableEq, Repr

/-- Reads a token's name and closing brace, after its opening brace. -/
def token? : List Char → Option (String × List Char)
  | [] => none
  | c :: cs =>
    if isNameStart c then
      match cs.dropWhile isNameChar with
      | '\x7d' :: rest => some (String.ofList (c :: cs.takeWhile isNameChar), rest)
      | _ => none
    else none

theorem length_dropWhile_le (p : Char → Bool) (cs : List Char) :
    (cs.dropWhile p).length ≤ cs.length :=
  (List.dropWhile_suffix p).length_le

/-- What follows a token is shorter than what follows its opening brace. -/
theorem length_lt_of_token? {cs rest : List Char} {name : String}
    (h : token? cs = some (name, rest)) : rest.length < cs.length := by
  cases cs with
  | nil => simp [token?] at h
  | cons c cs =>
    simp only [token?] at h
    split at h
    · split at h
      · rename_i r hr
        have hle := length_dropWhile_le isNameChar cs
        rw [hr] at hle
        simp only [Option.some.injEq, Prod.mk.injEq] at h
        rw [← h.2]
        simp only [List.length_cons] at hle ⊢
        omega
      · simp at h
    · simp at h

/-- A text cut into pieces from left to right. -/
def pieces : List Char → List Piece
  | [] => []
  | c :: cs =>
    if c = '\x7b' then
      match h : token? cs with
      | some (name, rest) =>
        have : rest.length < cs.length := length_lt_of_token? h
        .token name :: pieces rest
      | none => .char c :: pieces cs
    else .char c :: pieces cs
  termination_by cs => cs.length

/-- The name of a piece that is a token. -/
def Piece.name? : Piece → Option String
  | .char _ => none
  | .token name => some name

/-- The names of a text's tokens, in order and with repeats. -/
def names (text : String) : List String := (pieces text.toList).filterMap Piece.name?

/-- The names of the tokens in any of the texts. -/
def namesOfAll (texts : List String) : NameSet := NameSet.ofNames (texts.flatMap names)

/-- The characters that take a piece's place. -/
def Piece.fill (argument : String → String) : Piece → List Char
  | .char c => [c]
  | .token name => (argument name).toList

/-- The text with every token replaced by the argument of its name. -/
def fill (text : String) (argument : String → String) : String :=
  String.ofList ((pieces text.toList).flatMap (Piece.fill argument))

end Phrasebook.Template
