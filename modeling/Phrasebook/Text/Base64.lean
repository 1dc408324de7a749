/-!
# Base64

Bytes from their text in base 64. Characters that are no digits are skipped, and reading stops where a
group of four is complete with padding.

## Contents
- `base64Digit?`: the value of a digit
- `decodeBase64`: the bytes of a text
-/

namespace Phrasebook.Text

/-- The value of a digit in base 64. -/
def base64Digit? (c : Char) : Option Nat :=
  if c.isUpper then some (c.toNat - 65)
  else if c.isLower then some (c.toNat - 71)
  else if c.isDigit then some (c.toNat + 4)
  else if c = '+' then some 62
  else if c = '/' then some 63
  else none

/-- Reads digits on top of an unfinished group: the number of its digits and of the padding after
them, and the bits that are no whole byte yet. Nothing is returned when the last group is
unfinished. -/
def decodeDigits (place pads bits : Nat) (acc : ByteArray) : List Char → Option ByteArray
  | [] => if place = 0 then some acc else none
  | c :: rest =>
    if c = '=' then
      if 2 ≤ place then
        if 4 ≤ place + (pads + 1) then some acc else decodeDigits place (pads + 1) bits acc rest
      else decodeDigits place pads bits acc rest
    else
      match base64Digit? c with
      | none => decodeDigits place pads bits acc rest
      | some v =>
        match place with
        | 0 => decodeDigits 1 0 v acc rest
        | 1 => decodeDigits 2 0 (v % 16) (acc.push (UInt8.ofNat (bits * 4 + v / 16))) rest
        | 2 => decodeDigits 3 0 (v % 4) (acc.push (UInt8.ofNat (bits * 16 + v / 4))) rest
        | _ => decodeDigits 0 0 0 (acc.push (UInt8.ofNat (bits * 64 + v))) rest

/-- The bytes that a text in base 64 stands for, if its last group is complete. -/
def decodeBase64 (s : String) : Option ByteArray := decodeDigits 0 0 0 .empty s.toList

end Phrasebook.Text
