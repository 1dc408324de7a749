import Phrasebook.Text.Blocks
import Phrasebook.Yaml.Chars

/-!
# YAML streams

The characters of a YAML file as far as they can be read. The file is read block by block and only as
far as its text is looked at, so what is wrong with a later block is no fault until then. Where
nothing is wrong, the blocks do not show: the stream is the whole text.

## Contents
- `Stream`: the type
- `Stream.ofBlocks`: the stream of blocks
- `Stream.ofBytes`: the stream of a file
-/

namespace Phrasebook.Yaml

/-- The characters of a file as far as they can be read. -/
structure Stream where
  /-- The characters. -/
  chars : List Char
  /-- What comes of looking beyond them; nothing where the file ends. -/
  ending : Option Fault

namespace Stream

/-- Joins blocks up to the first that holds a character which a text may not hold. Those that are
there may end because the file is not UTF-8. -/
def join (isBroken : Bool) : List (List Char) → Stream
  | [] => ⟨[], if isBroken then some .notUtf8 else none⟩
  | block :: blocks =>
    if block.all isAllowed then
      let rest := join isBroken blocks
      ⟨block ++ rest.chars, rest.ending⟩
    else ⟨[], some .malformed⟩

/-- The stream of blocks, of which the first two are read before anything else. -/
def ofBlocks (blocks : List (List Char)) (isBroken : Bool) : Except Fault Stream :=
  let front := (blocks.take 2).flatten
  if isBroken && blocks.length < 2 then .error .notUtf8
  else if !front.all isAllowed then .error .malformed
  else
    let rest := join isBroken (blocks.drop 2)
    .ok ⟨front ++ rest.chars, rest.ending⟩

/-- The stream of a file. -/
def ofBytes (bytes : ByteArray) : Except Fault Stream :=
  let whole := (String.fromUTF8? bytes).map fun text => Text.unifyLineEnds text.toList
  match whole.filter (·.all isAllowed) with
  | some cs => .ok ⟨cs, none⟩
  | none =>
    let (blocks, isBroken) := Text.blocks bytes
    ofBlocks blocks isBroken

end Stream

end Phrasebook.Yaml
