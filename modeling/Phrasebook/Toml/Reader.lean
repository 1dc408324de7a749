import Phrasebook.Toml.Table
import Phrasebook.Toml.Text
import Phrasebook.Yaml.Timestamp

/-!
# Reading TOML

A reader for whole documents. Statements are taken one by one; each is a blank line, a field of the
table opened last, or the header of a table or of an element of an array of tables.

## Contents
- `number`, `dateTime`: scalars other than texts
- `value`: a value of any kind
- `Document.statement`: one line
- `Toml.read`: a whole text
-/

namespace Phrasebook.Toml

/-! ## Numbers -/

/-- Reads digits of a base, with single underscores between them; the number of digits, and what
follows. -/
def digitRun (base : Nat) : List Char → Nat × List Char
  | [] => (0, [])
  | [c] => if isDigitOf base c then (1, []) else (0, [c])
  | c :: c' :: rest =>
    if isDigitOf base c then
      if c' = '_' && rest.head?.any (isDigitOf base) then
        let (n, after) := digitRun base rest
        (n + 1, after)
      else
        let (n, after) := digitRun base (c' :: rest)
        (n + 1, after)
    else (0, c :: c' :: rest)

/-- Reads digits after a point. -/
def fraction? : List Char → Option (List Char)
  | '.' :: rest =>
    match digitRun 10 rest with
    | (0, _) => none
    | (_, after) => some after
  | _ => none

/-- Reads an exponent. -/
def exponent? : List Char → Option (List Char)
  | c :: rest =>
    if c = 'e' || c = 'E' then
      let rest := match rest with
        | '+' :: rest => rest
        | '-' :: rest => rest
        | rest => rest
      match digitRun 10 rest with
      | (0, _) => none
      | (_, after) => some after
    else none
  | [] => none

/-- Reads the digits of a whole number: a zero alone, or digits that do not start with a zero. -/
def whole? : List Char → Option (Nat × List Char)
  | '0' :: rest => some (1, rest)
  | cs =>
    match digitRun 10 cs with
    | (0, _) => none
    | found => some found

/-- Reads a whole number in base two, eight or sixteen after its mark. -/
def marked? : List Char → Option (List Char)
  | '0' :: c :: rest =>
    let base := if c = 'x' then 16 else if c = 'o' then 8 else if c = 'b' then 2 else 0
    match digitRun base rest with
    | (0, _) => none
    | (_, after) => some after
  | _ => none

/-- Reads a number: what follows it, or nothing where there is none. -/
def number (cs : List Char) : Option (Except Fault (List Char)) :=
  match marked? cs with
  | some rest => some (.ok rest)
  | none =>
    let unsigned := match cs with
      | '+' :: rest => rest
      | '-' :: rest => rest
      | cs => cs
    match whole? unsigned with
    | none => none
    | some (count, rest) =>
      let afterFraction := (fraction? rest).getD rest
      let after := (exponent? afterFraction).getD afterFraction
      if after.length = rest.length then
        if maxDigits < count then some (.error .longInteger) else some (.ok rest)
      else some (.ok after)

/-- Reads an infinity or a NaN. -/
def specialFloat (cs : List Char) : Option (List Char) :=
  let unsigned := match cs with
    | '+' :: rest => rest
    | '-' :: rest => rest
    | cs => cs
  match unsigned with
  | 'i' :: 'n' :: 'f' :: rest => some rest
  | 'n' :: 'a' :: 'n' :: rest => some rest
  | _ => none

/-! ## Dates and times -/

/-- Reads two digits that spell a number in a range. -/
def twoDigits (least most : Nat) : List Char → Option (Nat × List Char)
  | a :: b :: rest =>
    let n := natOfDigits 10 [a, b]
    if a.isDigit && b.isDigit && least ≤ n && n ≤ most then some (n, rest) else none
  | _ => none

/-- Goes past a given character. -/
def mark? (c : Char) : List Char → Option (List Char)
  | [] => none
  | c' :: cs => if c' = c then some cs else none

/-- Goes past a time of day. -/
def timeOfDay (cs : List Char) : Option (List Char) := do
  let (_, cs) ← twoDigits 0 23 cs
  let cs ← mark? ':' cs
  let (_, cs) ← twoDigits 0 59 cs
  let cs ← mark? ':' cs
  let (_, cs) ← twoDigits 0 59 cs
  match cs with
  | '.' :: rest =>
    if rest.head?.any Char.isDigit then some (rest.dropWhile Char.isDigit) else some cs
  | _ => some cs

/-- Goes past the zone of a time, if there is one. -/
def zone (cs : List Char) : List Char :=
  match cs with
  | [] => []
  | c :: rest =>
    if c = 'Z' || c = 'z' then rest
    else if c = '+' || c = '-' then
      let offset := do
        let (_, rest) ← twoDigits 0 23 rest
        let rest ← mark? ':' rest
        let (_, rest) ← twoDigits 0 59 rest
        return rest
      offset.getD cs
    else cs

/-- Reads a date with an optional time: whether there is such a day, and what follows. -/
def dateTime (cs : List Char) : Option (Bool × List Char) := do
  let year := cs.take 4
  if year.length < 4 || !year.all Char.isDigit then none
  else
    let cs ← mark? '-' (cs.drop 4)
    let (month, cs) ← twoDigits 1 12 cs
    let cs ← mark? '-' cs
    let (day, cs) ← twoDigits 1 31 cs
    let year := natOfDigits 10 year
    let isDay := 1 ≤ year && day ≤ Yaml.Timestamp.daysOfMonth year month
    let time := match cs with
      | c :: rest => if c = 'T' || c = 't' || c = ' ' then timeOfDay rest else none
      | [] => none
    return (isDay, (time.map zone).getD cs)

/-! ## Values -/

/-- Reads a scalar other than a text and a truth value. -/
def bareScalar (cs : List Char) : Except Fault (Toml × List Char) :=
  match dateTime cs with
  | some (true, rest) => .ok (.scalar, rest)
  | some (false, _) => .error .malformed
  | none =>
    match timeOfDay cs with
    | some rest => .ok (.scalar, rest)
    | none =>
      match number cs, specialFloat cs with
      | some (.ok rest), _ => .ok (.scalar, rest)
      | some (.error fault), _ => .error fault
      | none, some rest => .ok (.scalar, rest)
      | none, none => .error .malformed

/-- Whether the inside of a value may not be changed once it is set. -/
def isClosedValue : Toml → Bool
  | .array _ => true
  | .table _ => true
  | _ => false

/-- The number of arrays and inline tables that may be open around a value. -/
def maxDepth : Nat := 490

mutual

/-- Reads a value inside of some arrays and inline tables. The second argument bounds the number of
calls. -/
def value (depth : Nat) : Nat → List Char → Except Fault (Toml × List Char)
  | 0, _ => .error .malformed
  | fuel + 1, cs =>
    if maxDepth < depth then .error .tooDeep
    else match cs with
    | '"' :: _ => (quotedText cs).map fun (s, rest) => (.text s, rest)
    | '\'' :: _ => (rawText cs).map fun (s, rest) => (.text s, rest)
    | 't' :: 'r' :: 'u' :: 'e' :: rest => .ok (.scalar, rest)
    | 'f' :: 'a' :: 'l' :: 's' :: 'e' :: rest => .ok (.scalar, rest)
    | '[' :: rest => elements (depth + 1) fuel [] rest
    | '\x7b' :: rest =>
      match skipGap rest with
      | '\x7d' :: rest => .ok (.table [], rest)
      | rest => inlineFields (depth + 1) fuel [] {} rest
    | cs => bareScalar cs

/-- Reads the elements of an array and its end; `acc` holds those read, last first. -/
def elements (depth : Nat) : Nat → List Toml → List Char → Except Fault (Toml × List Char)
  | 0, _, _ => .error .malformed
  | fuel + 1, acc, cs =>
    match skipFiller (cs.length + 1) cs with
    | .error fault => .error fault
    | .ok (']' :: rest) => .ok (.array acc.reverse, rest)
    | .ok rest =>
      match value depth fuel rest with
      | .error fault => .error fault
      | .ok (v, rest) =>
        match skipFiller (rest.length + 1) rest with
        | .error fault => .error fault
        | .ok (',' :: rest) => elements depth fuel (v :: acc) rest
        | .ok (']' :: rest) => .ok (.array (v :: acc).reverse, rest)
        | .ok _ => .error .malformed

/-- Reads the fields of an inline table from the first key on, and its end. -/
def inlineFields (depth : Nat) : Nat → Table → Marks → List Char → Except Fault (Toml × List Char)
  | 0, _, _, _ => .error .malformed
  | fuel + 1, t, marks, cs =>
    match key cs with
    | .error fault => .error fault
    | .ok (parts, '=' :: rest) =>
      match value depth fuel (skipGap rest) with
      | .error fault => .error fault
      | .ok (v, rest) =>
        if marks.isFrozen parts then .error .malformed
        else
          match Table.modify false (Table.addField (parts.getLastD "") v) parts.dropLast t with
          | none => .error .malformed
          | some t =>
            match skipGap rest with
            | '\x7d' :: rest => .ok (.table t, rest)
            | ',' :: rest =>
              let marks := if isClosedValue v then marks.freeze parts else marks
              inlineFields depth fuel t marks (skipGap rest)
            | _ => .error .malformed
    | .ok _ => .error .malformed

end

/-! ## Documents -/

/-- A document as far as it was read. -/
structure Document where
  /-- The fields of the whole document. -/
  table : Table := []
  /-- What may not be done any more. -/
  marks : Marks := {}
  /-- The table opened last. -/
  header : Key := []

namespace Document

/-- Adds a field under a dotted key of the open table. -/
def addField (d : Document) (parts : Key) (v : Toml) : Option Document :=
  let between := (List.range parts.length).drop 1 |>.map fun n => d.header ++ parts.take n
  let parent := d.header ++ parts.dropLast
  if between.any d.marks.isClosed || d.marks.isFrozen parent then none
  else
    (Table.modify true (Table.addField (parts.getLastD "") v) parent d.table).map fun table =>
      let marks := { d.marks with pending := between ++ d.marks.pending }
      let marks := if isClosedValue v then marks.freeze (d.header ++ parts) else marks
      { d with table, marks }

/-- Opens a table. -/
def openTable (d : Document) (parts : Key) : Option Document :=
  let marks := d.marks.atHeader
  if marks.isClosed parts || marks.isFrozen parts then none
  else
    (Table.modify true some parts d.table).map fun table =>
      { table, marks := marks.close parts, header := parts }

/-- Opens a new element of an array of tables. -/
def openElement (d : Document) (parts : Key) : Option Document :=
  let marks := d.marks.atHeader
  if marks.isFrozen parts then none
  else
    (Table.modify true (Table.addElement (parts.getLastD "")) parts.dropLast d.table).map
      fun table => { table, marks := (marks.forget parts).close parts, header := parts }

/-- The document that a statement leads to, or a refusal. -/
def orRefuse (d : Option Document) (rest : List Char) : Except Fault (Document × List Char) :=
  match d with
  | none => .error .malformed
  | some d => .ok (d, rest)

/-- Reads a header. -/
def headerLine (d : Document) (cs : List Char) : Except Fault (Document × List Char) :=
  match cs with
  | '[' :: '[' :: rest =>
    match key (skipGap rest) with
    | .error fault => .error fault
    | .ok (parts, ']' :: ']' :: rest) => orRefuse (d.openElement parts) rest
    | .ok _ => .error .malformed
  | _ =>
    match key (skipGap (cs.drop 1)) with
    | .error fault => .error fault
    | .ok (parts, ']' :: rest) => orRefuse (d.openTable parts) rest
    | .ok _ => .error .malformed

/-- Reads a field. -/
def fieldLine (d : Document) (cs : List Char) : Except Fault (Document × List Char) :=
  match key cs with
  | .error fault => .error fault
  | .ok (parts, '=' :: rest) =>
    match value 0 (2 * rest.length + 2) (skipGap rest) with
    | .error fault => .error fault
    | .ok (v, rest) => orRefuse (d.addField parts v) rest
  | .ok _ => .error .malformed

/-- Reads a statement, without the comment after it. -/
def statement (d : Document) (cs : List Char) : Except Fault (Document × List Char) :=
  match cs with
  | [] => .ok (d, [])
  | c :: _ =>
    if c = '\n' || c = '#' then .ok (d, cs)
    else if isKeyChar c || c = '"' || c = '\'' then d.fieldLine cs
    else if c = '[' then d.headerLine cs
    else .error .malformed

/-- Reads statements, each up to the end of its line. The first argument bounds their number. -/
def statements : Nat → Document → List Char → Except Fault Document
  | 0, _, _ => .error .malformed
  | fuel + 1, d, cs =>
    match d.statement (skipGap cs) with
    | .error fault => .error fault
    | .ok (d, rest) =>
      match skipComment (skipGap rest) with
      | .error fault => .error fault
      | .ok [] => .ok d
      | .ok (c :: rest) => if c = '\n' then statements fuel d rest else .error .malformed

end Document

/-- A text with a carriage return before a line feed left out. -/
def unifyLineEnds : List Char → List Char
  | [] => []
  | '\r' :: '\n' :: rest => '\n' :: unifyLineEnds rest
  | c :: rest => c :: unifyLineEnds rest

/-- The fields of a document. -/
def read (text : String) : Except Fault Table :=
  let cs := unifyLineEnds text.toList
  (Document.statements (cs.length + 1) {} cs).map Document.table

end Phrasebook.Toml
