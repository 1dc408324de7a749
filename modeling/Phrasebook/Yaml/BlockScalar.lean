import Phrasebook.Yaml.Chars

/-!
# Block scalars

Scalars that a bar or a greater-than sign announces: the lines that follow, as far as they are
indented. After a greater-than sign a single line break between lines of text counts as a space.

## Contents
- `Header`: the indicators after the sign
- `blockBreaks`, `findIndent`: empty lines, and the depth of the first line of text
- `blockLines`: the lines
- `blockScalar`: the scalar after its sign
-/

namespace Phrasebook.Yaml

/-- What becomes of the line breaks at the end of a block scalar. -/
inductive Chomping where
  | strip
  | clip
  | keep
  deriving DecidableEq, Repr

/-- The indicators of a block scalar. -/
structure Header where
  /-- What becomes of the line breaks at the end. -/
  chomping : Chomping
  /-- How much deeper than its parent the scalar is, if that is given. -/
  increment : Option Nat

/-- The chomping that a sign asks for. -/
def chomping? : Char → Option Chomping
  | '+' => some .keep
  | '-' => some .strip
  | _ => none

/-- The digit that gives the depth of a block scalar; a zero is refused. -/
def increment? (c : Char) : Option (Except Fault Nat) :=
  if c.isDigit then some (if c = '0' then .error .malformed else .ok (c.toNat - 48)) else none

/-- Reads the indicators, in either order. -/
def header (cs : List Char) : Except Fault (Header × List Char) :=
  match cs with
  | [] => .ok (⟨.clip, none⟩, [])
  | c :: rest =>
    match chomping? c, increment? c with
    | some chomping, _ =>
      match rest.head?.bind increment? with
      | none => .ok (⟨chomping, none⟩, rest)
      | some n => n.map fun n => (⟨chomping, some n⟩, rest.drop 1)
    | none, some n =>
      n.map fun n =>
        match rest.head?.bind chomping? with
        | none => (⟨.clip, some n⟩, rest)
        | some chomping => (⟨chomping, some n⟩, rest.drop 1)
    | none, none => .ok (⟨.clip, none⟩, c :: rest)

/-- What is left of a line after an optional comment: nothing but its end. -/
def skipComment (cs : List Char) : Except Fault (List Char) :=
  let cs := cs.dropWhile (· = ' ')
  let cs := if cs.head? = some '#' then cs.dropWhile (!isBreak ·) else cs
  if endsLine cs.head? then .ok (cs.drop 1) else .error .malformed

/-- The column and the rest after the spaces up to a column. -/
def skipIndent (indent : Nat) : Nat → List Char → Nat × List Char
  | column, ' ' :: cs => if column < indent then skipIndent indent (column + 1) cs else (column, ' ' :: cs)
  | column, cs => (column, cs)

/-- Empty lines, each of at most the given depth: their breaks, and the column and rest after them.
The first argument bounds the number of lines. -/
def blockBreaks (indent : Nat) : Nat → Nat → List Char → List Char × Nat × List Char
  | 0, column, cs => ([], column, cs)
  | fuel + 1, column, cs =>
    match skipIndent indent column cs with
    | (column, []) => ([], column, [])
    | (column, c :: rest) =>
      if isBreak c then
        let (breaks, after) := blockBreaks indent fuel 0 rest
        (breakText c :: breaks, after)
      else ([], column, c :: rest)

/-- The empty lines before the first line of text: their breaks, the greatest depth of a space in them
and in that line, and the column and rest after them. -/
def findIndent (deepest : Nat) : Nat → List Char → List Char × Nat × Nat × List Char
  | column, [] => ([], deepest, column, [])
  | column, c :: rest =>
    if c = ' ' then findIndent (max deepest (column + 1)) (column + 1) rest
    else if isBreak c then
      let (breaks, after) := findIndent deepest 0 rest
      (breakText c :: breaks, after)
    else ([], deepest, column, c :: rest)

/-- The end of a block scalar's lines. -/
structure BlockEnd where
  /-- The characters of the lines. -/
  text : List Char
  /-- The break after the last line of text, if there is one. -/
  lastBreak : List Char
  /-- The breaks of the empty lines after it. -/
  breaks : List Char
  /-- What follows. -/
  rest : List Char

/-- Reads lines of text, each after its empty lines. The first argument bounds their number; `acc`
holds the characters read, last first, and `last` the break after them. -/
def blockLines (folds : Bool) (indent : Nat) :
    Nat → List Char → List Char → List Char → Nat → List Char → BlockEnd
  | 0, acc, last, breaks, _, cs => ⟨acc.reverse, last, breaks, cs⟩
  | fuel + 1, acc, last, breaks, column, cs =>
    if column = indent ∧ cs ≠ [] then
      let line := cs.takeWhile (!isBreak ·)
      let after := cs.dropWhile (!isBreak ·)
      let last := after.take 1 |>.map breakText
      let (breaks', column', rest') :=
        if after.isEmpty then ([], column + line.length, [])
        else blockBreaks indent (fuel + 1) 0 (after.drop 1)
      let acc := line.reverse ++ (breaks.reverse ++ acc)
      if column' = indent ∧ rest' ≠ [] then
        let isText (c : Option Char) : Bool := !(c.any isGap)
        let joint :=
          if folds && last = ['\n'] && isText cs.head? && isText rest'.head? then
            if breaks'.isEmpty then [' '] else []
          else last
        blockLines folds indent fuel (joint.reverse ++ acc) last breaks' column' rest'
      else ⟨acc.reverse, last, breaks', rest'⟩
    else ⟨acc.reverse, last, breaks, cs⟩

/-- Reads a block scalar after its sign. The parent's depth is minus one at the top. -/
def blockScalar (folds : Bool) (parent : Int) (cs : List Char) :
    Except Fault (String × List Char) := do
  let (head, cs) ← header cs
  unless endsField cs.head? do throw .malformed
  let cs ← skipComment cs
  let least := max 1 (parent + 1).toNat
  let (breaks, indent, column, cs) := match head.increment with
    | none =>
      let (breaks, deepest, column, rest) := findIndent 0 0 cs
      (breaks, max least deepest, column, rest)
    | some n =>
      let indent := least + n - 1
      let (breaks, column, rest) := blockBreaks indent (cs.length + 1) 0 cs
      (breaks, indent, column, rest)
  let lines := blockLines folds indent (cs.length + 1) [] [] breaks column cs
  let tail := match head.chomping with
    | .strip => []
    | .clip => lines.lastBreak
    | .keep => lines.lastBreak ++ lines.breaks
  .ok (String.ofList (lines.text ++ tail), lines.rest)

end Phrasebook.Yaml
