import Phrasebook.Yaml.BlockScalar
import Phrasebook.Yaml.PlainScalar
import Phrasebook.Yaml.QuotedScalar
import Phrasebook.Yaml.Stream
import Phrasebook.Yaml.Tag

/-!
# YAML tokens

A text as a list of tokens, in which indentation has become explicit. A key in front of a colon is
known to be one only when the colon is reached; until then its place is kept, and the token that
announces a key is put there afterwards.

A fault ends the list. It stands where the first token that could not be handed on would: a token is
handed on when no key can be put in front of it any more, so the text is looked through up to there
first.

## Contents
- `Token`: the tokens
- `Scanner`: what is known between two tokens
- `Scanner.fetch`: the next tokens
- `Scanner.run`, `Token.scan`: all tokens
-/

namespace Phrasebook.Yaml

/-- A token. -/
inductive Token where
  | directive (value : Directive)
  | documentStart
  | documentEnd
  | streamEnd
  | blockSequenceStart
  | blockMappingStart
  | blockEnd
  | flowSequenceStart
  | flowSequenceEnd
  | flowMappingStart
  | flowMappingEnd
  /-- A hyphen before an element. -/
  | blockEntry
  /-- A comma between elements. -/
  | flowEntry
  | key
  | value
  | alias (name : String)
  | anchor (name : String)
  | tag (handle : Option String) (suffix : String)
  | scalar (text : String) (plain : Bool)
  /-- The text cannot be read beyond this point. -/
  | broken (fault : Fault)
  deriving DecidableEq, Repr

/-- The place of a token that turns out to be a key if a colon follows. -/
structure PossibleKey where
  /-- The number of tokens before it. -/
  place : Nat
  /-- Whether nothing else can stand there. -/
  required : Bool
  /-- Where in the text it starts. -/
  start : Cursor

/-- What is known between two tokens. -/
structure Scanner where
  /-- The position in the text. -/
  cursor : Cursor
  /-- What comes of looking beyond the text; nothing where it really ends. -/
  ending : Option Fault
  /-- A number above the number of characters of the text. -/
  bound : Nat
  /-- The number of tokens handed on. -/
  handed : Nat := 0
  /-- The tokens read and not handed on, in order. -/
  tokens : List Token := []
  /-- Whether the end of the text was read. -/
  ended : Bool := false
  /-- The column of the innermost block collection, or minus one. -/
  indent : Int := -1
  /-- The columns of the block collections around it, innermost first. -/
  indents : List Int := []
  /-- The number of flow collections that are open. -/
  depth : Nat := 0
  /-- Whether a key without a mark may start here. -/
  keyAllowed : Bool := true
  /-- The possible key of each depth that has one. -/
  keys : List (Nat × PossibleKey) := []

namespace Scanner

/-- Whether the position is inside a flow collection. -/
def inFlow (s : Scanner) : Bool := 0 < s.depth

/-- Adds a token. -/
def push (s : Scanner) (t : Token) : Scanner := { s with tokens := s.tokens ++ [t] }

/-- The fault of looking beyond the text, if so many characters of it are not left. -/
def require (s : Scanner) (count : Nat) : Except Fault Unit :=
  match s.ending with
  | some fault => if (s.cursor.rest.drop (count - 1)).isEmpty then .error fault else .ok ()
  | none => .ok ()

/-! ## Possible keys -/

/-- Gives up the possible keys that are on an earlier line or too far back. -/
def dropStaleKeys (s : Scanner) : Except Fault Scanner :=
  let isStale (k : PossibleKey) : Bool :=
    k.start.line ≠ s.cursor.line || 1024 < s.cursor.index - k.start.index
  if s.keys.any fun k => isStale k.2 && k.2.required then .error .malformed
  else .ok { s with keys := s.keys.filter fun k => !isStale k.2 }

/-- Gives up the possible key of the current depth. -/
def dropKey (s : Scanner) : Except Fault Scanner :=
  match s.keys.lookup s.depth with
  | none => .ok s
  | some k =>
    if k.required then .error .malformed
    else .ok { s with keys := s.keys.filter (·.1 ≠ s.depth) }

/-- Notes that the next token is a possible key, where one may start. -/
def noteKey (s : Scanner) : Except Fault Scanner :=
  if s.keyAllowed then
    s.dropKey.map fun s' =>
      let required := !s.inFlow && decide (s.indent = s.cursor.column)
      { s' with keys := (s.depth, ⟨s.handed + s.tokens.length, required, s.cursor⟩) :: s'.keys }
  else .ok s

/-! ## Indentation -/

/-- Closes block collections that are deeper than a column, innermost first. -/
def closeBlocks (column : Int) : List Int → Scanner → Scanner
  | [], s => s
  | outer :: indents, s =>
    if column < s.indent then
      closeBlocks column indents { s with indent := outer, indents, tokens := s.tokens ++ [.blockEnd] }
    else s

/-- Closes block collections that are deeper than a column, outside of flow collections. -/
def unwind (s : Scanner) (column : Int) : Scanner :=
  if s.inFlow then s else closeBlocks column s.indents s

/-- Whether a block collection that starts at a column is a new one. -/
def isDeeper (s : Scanner) (column : Nat) : Bool := s.indent < column

/-- Opens a block collection at a column, when that is deeper. -/
def openBlock (s : Scanner) (column : Nat) : Scanner :=
  if s.isDeeper column then { s with indents := s.indent :: s.indents, indent := column } else s

/-- Opens a block collection at the current column and adds its token, when that is deeper. -/
def openBlockHere (s : Scanner) (t : Token) : Scanner :=
  if s.isDeeper s.cursor.column then (s.openBlock s.cursor.column).push t else s

/-! ## From token to token -/

/-- Skips blanks, comments and line breaks in front of a rest of the text. -/
def skipBlanks (s : Scanner) (inComment : Bool) : List Char → Scanner
  | [] => s
  | c :: rest =>
    if isBreak c then
      skipBlanks { s with cursor := s.cursor.next, keyAllowed := s.keyAllowed || !s.inFlow } false rest
    else if inComment || c = ' ' || c = '#' then
      skipBlanks { s with cursor := s.cursor.next } (inComment || c = '#') rest
    else s

/-- Ends the document's collections, before a marker or the end. -/
def endContent (s : Scanner) : Except Fault Scanner :=
  (s.unwind (-1)).dropKey.map fun s => { s with keyAllowed := false }

/-- Adds a token that is one mark long. -/
def mark (s : Scanner) (t : Token) : Scanner := { s.push t with cursor := s.cursor.next }

/-- Reads a document marker. -/
def documentMarker (s : Scanner) (t : Token) : Except Fault Scanner :=
  s.endContent.map fun s => { s.push t with cursor := s.cursor.skip 3 }

/-- Opens a flow collection. -/
def openFlow (s : Scanner) (t : Token) : Except Fault Scanner :=
  s.noteKey.map fun s => { s.mark t with depth := s.depth + 1, keyAllowed := true }

/-- Closes a flow collection. -/
def closeFlow (s : Scanner) (t : Token) : Except Fault Scanner :=
  if s.inFlow then
    s.dropKey.map fun s => { s.mark t with depth := s.depth - 1, keyAllowed := false }
  else .error .malformed

/-- Reads a comma. -/
def flowEntry (s : Scanner) : Except Fault Scanner :=
  s.dropKey.map fun s => { s.mark .flowEntry with keyAllowed := true }

/-- Reads the hyphen before an element. -/
def blockEntry (s : Scanner) : Except Fault Scanner :=
  if !s.inFlow && !s.keyAllowed then .error .malformed
  else
    let s := if s.inFlow then s else s.openBlockHere .blockSequenceStart
    s.dropKey.map fun s => { s.mark .blockEntry with keyAllowed := true }

/-- Reads the question mark before a key. -/
def keyMark (s : Scanner) : Except Fault Scanner :=
  if !s.inFlow && !s.keyAllowed then .error .malformed
  else
    let s := if s.inFlow then s else s.openBlockHere .blockMappingStart
    s.dropKey.map fun s => { s.mark .key with keyAllowed := !s.inFlow }

/-- Makes the possible key at a place a key. -/
def settleKey (s : Scanner) (k : PossibleKey) : Scanner :=
  let column := k.start.column
  let opens := !s.inFlow && s.isDeeper column
  let announced := if opens then [Token.blockMappingStart, .key] else [.key]
  let s' := if opens then s.openBlock column else s
  let place := k.place - s.handed
  { s' with
    tokens := s.tokens.take place ++ announced ++ s.tokens.drop place
    keys := s.keys.filter (·.1 ≠ s.depth)
    keyAllowed := false }

/-- Reads the colon before a value. -/
def valueMark (s : Scanner) : Except Fault Scanner :=
  match s.keys.lookup s.depth with
  | some k => .ok ((s.settleKey k).mark .value)
  | none =>
    if !s.inFlow && !s.keyAllowed then .error .malformed
    else
      let s := if s.inFlow then s else s.openBlockHere .blockMappingStart
      s.dropKey.map fun s => { s.mark .value with keyAllowed := !s.inFlow }

/-- Reads a token that may be a key, from the position after its first character on. -/
def keyToken (s : Scanner) (read : Cursor → Except Fault (Token × Cursor)) : Except Fault Scanner :=
  match s.noteKey with
  | .error fault => .error fault
  | .ok s => (read s.cursor.next).map fun (t, cursor) =>
      { s.push t with cursor, keyAllowed := false }

/-- The number of characters looked at from the end of a scalar on, which at the start of each of its
further lines was looked through for a document marker. -/
def reachAfter (start cursor : Cursor) : Nat :=
  if cursor.line = start.line then 1
  else (if isAtMarker cursor.rest then 4 else 3) - cursor.column

/-- Reads a scalar between quotes. -/
def quotedToken (s : Scanner) (double : Bool) : Except Fault Scanner := do
  let start := s.cursor
  let s ← s.keyToken fun c =>
    (quotedScalar double s.bound [] c).map fun (text, cursor) => (.scalar text false, cursor)
  s.require (reachAfter start s.cursor)
  return s

/-- Reads a block scalar. -/
def blockScalarToken (s : Scanner) (folds : Bool) : Except Fault Scanner :=
  match s.dropKey with
  | .error fault => .error fault
  | .ok s => (blockScalar folds s.indent (s.cursor.rest.drop 1)).map fun (text, rest) =>
      { s.push (.scalar text false) with cursor := s.cursor.goTo rest, keyAllowed := true }

/-- Reads a plain scalar. A colon after it was looked beyond. -/
def plainToken (s : Scanner) : Except Fault Scanner := do
  let start := s.cursor
  let s ← s.noteKey
  let plain := plainScalar s.inFlow (s.indent + 1) s.bound [] [] false start
  let s := { s.push (.scalar (String.ofList plain.text) true) with
    cursor := plain.cursor
    keyAllowed := plain.breaks }
  s.require (reachAfter start s.cursor)
  s.require (if s.cursor.peek = some ':' then 2 else 1)
  return s

/-- Reads a directive. -/
def directiveToken (s : Scanner) : Except Fault Scanner :=
  match s.endContent with
  | .error fault => .error fault
  | .ok s => (directive (s.cursor.rest.drop 1)).map fun (value, rest) =>
      { s.push (.directive value) with cursor := s.cursor.goTo rest }

/-- Whether a character always starts a plain scalar. -/
def isPlainStart (c : Char) : Bool :=
  !(isGap c || isBreak c || "-?:,[]\x7b\x7d#&*!|>'\"%@`".toList.contains c)

/-- Whether a plain scalar may start with a character before what follows it. -/
def startsPlain (inFlow : Bool) (c : Char) (following : Option Char) : Bool :=
  isPlainStart c || (!endsWord following && (c = '-' || (!inFlow && (c = '?' || c = ':'))))

/-- The number of characters looked at to tell what kind of token starts with a character. -/
def reach (s : Scanner) (c : Char) : Nat :=
  if s.cursor.column = 0 && c = '%' then 1
  else if s.cursor.column = 0 && (c = '-' || c = '.') then
    if s.cursor.rest.take 3 = [c, c, c] then 4 else 3
  else if ",[\x7b&*!'\"".toList.contains c then 1
  else if s.inFlow then if c = '?' || c = ':' || isPlainStart c then 1 else 2
  else if c = '|' || c = '>' || isPlainStart c then 1
  else 2

/-- Reads the token that starts with a character. -/
def dispatch (s : Scanner) (c : Char) : Except Fault Scanner :=
  let following := s.cursor.peekSecond
  let atStart := decide (s.cursor.column = 0)
  let isMark := s.inFlow || endsWord following
  if c = '%' && atStart then s.directiveToken
  else if atStart && isAtMarker s.cursor.rest then
    s.documentMarker (if c = '-' then .documentStart else .documentEnd)
  else if c = '[' then s.openFlow .flowSequenceStart
  else if c = '\x7b' then s.openFlow .flowMappingStart
  else if c = ']' then s.closeFlow .flowSequenceEnd
  else if c = '\x7d' then s.closeFlow .flowMappingEnd
  else if c = ',' then s.flowEntry
  else if c = '-' && endsWord following then s.blockEntry
  else if c = '?' && isMark then s.keyMark
  else if c = ':' && isMark then s.valueMark
  else if c = '*' then
    s.keyToken fun after => (anchorName after.rest).map fun (n, r) => (.alias n, after.goTo r)
  else if c = '&' then
    s.keyToken fun after => (anchorName after.rest).map fun (n, r) => (.anchor n, after.goTo r)
  else if c = '!' then
    s.keyToken fun after => (tag ('!' :: after.rest)).map fun ((handle, suffix), r) =>
      (.tag handle suffix, after.goTo r)
  else if c = '|' && !s.inFlow then s.blockScalarToken false
  else if c = '>' && !s.inFlow then s.blockScalarToken true
  else if c = '\'' || c = '"' then s.quotedToken (c = '"')
  else if startsPlain s.inFlow c following then s.plainToken
  else .error .malformed

/-- Reads the end of the text. -/
def finish (s : Scanner) : Except Fault Scanner :=
  s.endContent.map fun s => { s.push .streamEnd with keys := [], ended := true }

/-! ## All tokens -/

/-- Reads the next tokens: those that close collections, and the one that starts at the next character
that is not blank. -/
def fetch (s : Scanner) : Except Fault Scanner := do
  let s := s.skipBlanks false s.cursor.rest
  s.require 1
  let s ← s.dropStaleKeys
  let s := s.unwind s.cursor.column
  match s.cursor.peek with
  | none => s.finish
  | some c =>
    s.require (s.reach c)
    let s ← s.dispatch c
    s.require 1
    return s

/-- Hands on the tokens that no key can be put in front of any more. -/
def handOn (s : Scanner) : List Token × Scanner :=
  let count := s.keys.foldl (fun n k => min n (k.2.place - s.handed)) s.tokens.length
  (s.tokens.take count, { s with tokens := s.tokens.drop count, handed := s.handed + count })

/-- The end of a list of tokens, of which `acc` holds those handed on, last first. Where a text is
unfinished, more of it is asked for first. -/
def breakOff (s : Scanner) (acc : List Token) (fault : Fault) : List Token :=
  let fault := if fault = .unfinished then s.ending.getD .malformed else fault
  (.broken fault :: acc).reverse

/-- Reads tokens up to the end of the text. The first argument bounds their number; `acc` holds those
handed on, last first. -/
def run : Nat → List Token → Scanner → List Token
  | 0, acc, s => s.breakOff acc .malformed
  | fuel + 1, acc, s =>
    match s.fetch with
    | .error fault => s.breakOff acc fault
    | .ok s =>
      if s.ended then acc.reverse ++ s.tokens
      else
        match s.dropStaleKeys with
        | .error fault => s.breakOff acc fault
        | .ok s =>
          let (tokens, s) := s.handOn
          run fuel (tokens.reverse ++ acc) s

end Scanner

/-- The tokens of a text. A byte order mark at its start is no part of it. -/
def Token.scan (stream : Stream) : List Token :=
  let start := Cursor.start stream.chars
  let start := if start.peek = some '\ufeff' then start.next else start
  let bound := stream.chars.length + 2
  Scanner.run bound [] { cursor := start, ending := stream.ending, bound }

end Phrasebook.Yaml
