import Spreadsheet.Text.Printable

/-! Text as it is quoted in messages: delimited, with escapes for what does not show. -/

namespace Spreadsheet.Text

/-- A digit of a number written to base sixteen. -/
def hexDigit (n : Nat) : Char :=
  -- Ten to fifteen are the letters a to f.
  if n < 10 then Char.ofNat (0x30 + n) else Char.ofNat (0x57 + n)

/-- The last `width` digits of a number written to base sixteen. -/
def hexDigits : Nat → Nat → List Char
  -- The last digit is the remainder, the others come from the quotient.
  | 0, _ => []
  | width + 1, n => hexDigits width (n / 16) ++ [hexDigit (n % 16)]

/-- A character between the given delimiters. -/
def quotedChar (delimiter : Char) (c : Char) : List Char :=
  -- Three blanks have escapes of their own; other hidden characters are written by number.
  if c = delimiter || c = '\\' then ['\\', c]
  else if c = '\t' then ['\\', 't']
  else if c = '\n' then ['\\', 'n']
  else if c = '\r' then ['\\', 'r']
  else if isPrintable c then [c]
  else if c.toNat < 0x100 then '\\' :: 'x' :: hexDigits 2 c.toNat
  else if c.toNat < 0x10000 then '\\' :: 'u' :: hexDigits 4 c.toNat
  else '\\' :: 'U' :: hexDigits 8 c.toNat

/-- A text between quotes: single ones, unless it holds a single quote and no double one. -/
def quoted (s : String) : String :=
  -- The choice of the delimiter spares an escape where it can.
  let cs := s.toList
  let delimiter := if cs.contains '\'' && !cs.contains '"' then '"' else '\''
  String.ofList (delimiter :: cs.flatMap (quotedChar delimiter) ++ [delimiter])

end Spreadsheet.Text
