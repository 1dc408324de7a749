import Phrasebook.Yaml.Cursor

/-!
# Plain scalars

Scalars without quotes. In a flow collection they end at its marks; elsewhere they go on over lines
that are indented deeper than their parent, with line breaks folded as in a quoted scalar.

## Contents
- `isFlowMark`, `plainRun`: the characters up to a blank, a break or a mark
- `plainGap`: the blanks and breaks after a run
- `plainScalar`: the whole scalar
-/

namespace Phrasebook.Yaml

/-- Whether a character has a meaning of its own in a flow collection. -/
def isFlowMark (c : Char) : Bool := c = ',' || c = '[' || c = ']' || c = '\x7b' || c = '\x7d'

/-- Whether a colon before what follows separates a key from its value. -/
def endsKey (inFlow : Bool) (following : Option Char) : Bool :=
  endsWord following || (inFlow && following.any isFlowMark)

/-- The characters of a plain scalar up to a blank, a break or a mark that ends it. -/
def plainRun (inFlow : Bool) : List Char → List Char
  | [] => []
  | c :: cs =>
    if isGap c || isBreak c || (c = ':' && endsKey inFlow cs.head?) ||
        (inFlow && (isFlowMark c || c = '?')) then []
    else c :: plainRun inFlow cs

/-- The blanks and breaks after a run of characters. -/
structure PlainGap where
  /-- What they contribute if the scalar goes on after them; nothing if it cannot. -/
  text : List Char
  /-- The position after them. -/
  cursor : Cursor
  /-- Whether a line ends in them. -/
  breaks : Bool

/-- The empty lines after a line break and the spaces before what follows, or nothing when a document
marker follows; `acc` holds the breaks read, last first. The first argument bounds the number of
characters. -/
def plainBreaks : Nat → List Char → Cursor → Option (List Char) × Cursor
  | 0, _, c => (none, c)
  | fuel + 1, acc, c =>
    match c.peek with
    | none => (some acc.reverse, c)
    | some ch =>
      if ch = ' ' then plainBreaks fuel acc c.next
      else if isBreak ch then
        if isAtMarker c.next.rest then (none, c.next)
        else plainBreaks fuel (breakText ch :: acc) c.next
      else (some acc.reverse, c)

/-- Reads the blanks and breaks after a run of characters. The first argument bounds their number. -/
def plainGap (fuel : Nat) (c : Cursor) : PlainGap :=
  let spaces := c.rest.takeWhile (· = ' ')
  let after := c.skip spaces.length
  match after.peek with
  | some b =>
    if isBreak b then
      let start := after.next
      if isAtMarker start.rest then ⟨[], start, true⟩
      else
        match plainBreaks fuel [] start with
        | (none, cursor) => ⟨[], cursor, true⟩
        | (some breaks, cursor) =>
          let text :=
            if breakText b ≠ '\n' then breakText b :: breaks
            else if breaks.isEmpty then [' ']
            else breaks
          ⟨text, cursor, true⟩
    else ⟨spaces, after, false⟩
  | none => ⟨spaces, after, false⟩

/-- A plain scalar as far as it was read. -/
structure Plain where
  /-- Its characters. -/
  text : List Char
  /-- The position after it and the blanks that follow. -/
  cursor : Cursor
  /-- Whether a line ends after the last character. -/
  breaks : Bool

/-- Reads a plain scalar from a position, after a gap and the characters in `acc`, last first; in a
block its further lines have to reach a column. The first argument bounds the number of characters. -/
def plainScalar (inFlow : Bool) (indent : Int) :
    Nat → List Char → List Char → Bool → Cursor → Plain
  | 0, acc, _, breaks, c => ⟨acc.reverse, c, breaks⟩
  | fuel + 1, acc, gap, breaks, c =>
    let run := if c.peek = some '#' then [] else plainRun inFlow c.rest
    if run.isEmpty then ⟨acc.reverse, c, breaks⟩
    else
      let acc := run.reverse ++ (gap.reverse ++ acc)
      let next := plainGap (fuel + 1) (c.skip run.length)
      if next.text.isEmpty || next.cursor.peek = some '#' ||
          (!inFlow && decide ((next.cursor.column : Int) < indent)) then
        ⟨acc.reverse, next.cursor, next.breaks⟩
      else plainScalar inFlow indent fuel acc next.text next.breaks next.cursor

end Phrasebook.Yaml
