import Phrasebook.Text.Utf8

/-!
# Text files in blocks

A text file that is read a block of characters at a time. Bytes are fetched in chunks and decoded as
UTF-8, and every line end becomes one line feed. So what is wrong with the bytes of a long file shows
only when the block that needs their chunk is read.

## Contents
- `unifyLineEnds`: line ends as line feeds
- `BlockReader`: what is known between two reads
- `BlockReader.fetch?`: the next chunk of bytes
- `BlockReader.read?`: the next block of characters
- `blocks`: all blocks of a file
-/

namespace Phrasebook.Text

/-- A text with every line end written as one line feed. -/
def unifyLineEnds : List Char → List Char
  | [] => []
  | '\r' :: '\n' :: rest => '\n' :: unifyLineEnds rest
  | '\r' :: rest => '\n' :: unifyLineEnds rest
  | c :: rest => c :: unifyLineEnds rest

/-- The least number of bytes in a chunk other than the last one. -/
def chunkSize : Nat := 8192

/-- The number of characters in a block other than the last one. -/
def blockSize : Nat := 4096

/-- What is known between two reads. -/
structure BlockReader where
  /-- The bytes that were not fetched yet. -/
  bytes : List UInt8
  /-- A character of which some bytes were fetched. -/
  decoder : Utf8Decoder := none
  /-- Whether a carriage return waits for what follows it. -/
  held : Bool := false
  /-- The characters that were decoded and not read. -/
  ready : List Char := []
  /-- The number of bytes in the last chunk. -/
  lastBytes : Nat := 0
  /-- The number of characters that came of the last chunk. -/
  lastChars : Nat := 0

namespace BlockReader

/-- The number of bytes to fetch for some characters: as many as that number took at last, if that is
more than a chunk has anyway. -/
def fetchSize (r : BlockReader) (count : Nat) : Nat :=
  max chunkSize
    (if r.lastChars < r.lastBytes ∧ 0 < r.lastChars then r.lastBytes * count / r.lastChars else count)

/-- Characters after a carriage return that waited, with their line ends unified, and whether there is
one at their end that has to wait in turn. -/
def settleLineEnds (held atEnd : Bool) (cs : List Char) : List Char × Bool :=
  let cs := if held && (atEnd || !cs.isEmpty) then '\r' :: cs else cs
  if !atEnd && cs.getLast? = some '\r' then (unifyLineEnds cs.dropLast, true)
  else (unifyLineEnds cs, held && cs.isEmpty)

/-- Fetches a chunk for some characters, and decodes it in place of those that are ready. An empty
chunk is the end of the file. Nothing is returned when the chunk is not UTF-8. -/
def fetch? (r : BlockReader) (count : Nat) : Option BlockReader :=
  let chunk := r.bytes.take (r.fetchSize count)
  match Utf8Decoder.decode? [] r.decoder chunk with
  | none => none
  | some (cs, decoder) =>
    if chunk.isEmpty && decoder.isSome then none
    else
      let (ready, held) := settleLineEnds r.held chunk.isEmpty cs
      some {
        bytes := r.bytes.drop chunk.length, decoder, held, ready
        lastBytes := chunk.length, lastChars := ready.length }

/-- Reads characters that are ready. -/
def takeReady (r : BlockReader) (count : Nat) : List Char × BlockReader :=
  (r.ready.take count, { r with ready := r.ready.drop count })

/-- Reads characters after those in `acc`, as many as asked for unless the file ends. The first
argument bounds the number of chunks. -/
def readMore? : Nat → List Char → Nat → BlockReader → Option (List Char × BlockReader)
  | 0, acc, _, r => some (acc, r)
  | fuel + 1, acc, count, r =>
    if count = 0 then some (acc, r)
    else
      match r.fetch? count with
      | none => none
      | some next =>
        if r.bytes.isEmpty then some (acc, next)
        else
          let (cs, next) := next.takeReady count
          readMore? fuel (acc ++ cs) (count - cs.length) next

/-- Reads a block. Nothing is returned when a chunk that it needs is not UTF-8. -/
def read? (r : BlockReader) : Option (List Char × BlockReader) :=
  let (cs, next) := r.takeReady blockSize
  readMore? (next.bytes.length + 1) cs (blockSize - cs.length) next

/-- The blocks that can be read, and whether they end because the bytes are not UTF-8. The first
argument bounds their number. -/
def readAll : Nat → BlockReader → List (List Char) × Bool
  | 0, _ => ([], false)
  | fuel + 1, r =>
    match r.read? with
    | none => ([], true)
    | some ([], _) => ([], false)
    | some (block, next) =>
      let (blocks, isBroken) := readAll fuel next
      (block :: blocks, isBroken)

end BlockReader

/-- The blocks of a file that can be read, and whether they end because its bytes are not UTF-8. -/
def blocks (bytes : ByteArray) : List (List Char) × Bool :=
  BlockReader.readAll (bytes.size + 2) { bytes := bytes.data.toList }

end Phrasebook.Text
