/-
  Folio — quoted text, as messages show it.

  A text is put between apostrophes, or between double quotes if it holds an
  apostrophe and no double quote.  The quote, the backslash, line ends, tabs
  and all that cannot be printed are escaped.
-/
import Folio.Text.Digit
import Folio.Text.Octets
import Folio.Text.Printable

namespace Folio.Text

/-- The quote that a text is put between. -/
def quoteFor (cs : List Char) : Char :=
  if cs.contains '\'' && !cs.contains '"' then '"' else '\''

/-- The escape of a character that is not printable: the shortest of the three
    forms with two, four and eight hexadecimal digits. -/
def numericEscape (n : Nat) : List Char :=
  if n < 0x100 then '\\' :: 'x' :: hexText n 2
  else if n < 0x10000 then '\\' :: 'u' :: hexText n 4
  else '\\' :: 'U' :: hexText n 8

/-- A character inside quotes. -/
def quotedChar (quote c : Char) : List Char :=
  if c = quote ∨ c = '\\' then ['\\', c]
  else if c = '\n' then ['\\', 'n']
  else if c = '\r' then ['\\', 'r']
  else if c = '\t' then ['\\', 't']
  else if isPrintable c then [c]
  else numericEscape c.toNat

/-- A text in quotes. -/
def quoted (cs : List Char) : List Char :=
  let quote := quoteFor cs
  quote :: cs.flatMap (quotedChar quote) ++ [quote]

/-- A text in quotes. -/
def quotedString (s : String) : String := String.ofList (quoted s.toList)

/-- Octets in quotes, after the letter that marks them: all but the printable
    ASCII characters are escaped. -/
def quotedOctets (s : Octets) : List Char :=
  let cs := s.map fun b => Char.ofNat b.toNat
  let quote := quoteFor cs
  'b' :: quote :: cs.flatMap (octet quote) ++ [quote]
where
  octet (quote c : Char) : List Char :=
    if c.toNat < 0x80 then quotedChar quote c else numericEscape c.toNat

end Folio.Text
