import Phrasebook.Text.Printable

/-!
# Quoted text

A text shown between quotes, so that every character of it can be told from its printed form. The
quote is an apostrophe, or a double quote where that saves escaping: when the text holds an
apostrophe and no double quote.

## Contents
- `hexDigits`: a number in lower-case hexadecimal, padded to a width
- `quoted`: the shown form of a text
-/

namespace Phrasebook.Text

/-- A number in lower-case hexadecimal digits, with zeros in front up to a width. -/
def hexDigits (width n : Nat) : List Char :=
  let digits := Nat.toDigits 16 n
  List.replicate (width - digits.length) '0' ++ digits

/-- The escape of an unprintable character, by the least of the widths two, four and eight. -/
def codeEscape (c : Char) : List Char :=
  let n := c.toNat
  if n < 0x100 then '\\' :: 'x' :: hexDigits 2 n
  else if n < 0x10000 then '\\' :: 'u' :: hexDigits 4 n
  else '\\' :: 'U' :: hexDigits 8 n

/-- How one character is shown between the given quotes. -/
def shownChar (quote c : Char) : List Char :=
  if c = quote || c = '\\' then ['\\', c]
  else if c = '\n' then ['\\', 'n']
  else if c = '\r' then ['\\', 'r']
  else if c = '\t' then ['\\', 't']
  else if isPrintable c then [c]
  else codeEscape c

/-- The quote that a text is shown with. -/
def quoteFor (s : String) : Char :=
  if s.toList.contains '\'' && !s.toList.contains '"' then '"' else '\''

/-- A text between quotes, its unprintable characters escaped. -/
def quoted (s : String) : String :=
  let quote := quoteFor s
  String.ofList (quote :: s.toList.flatMap (shownChar quote) ++ [quote])

end Phrasebook.Text
