/-! Whole numbers written in decimal digits. -/

namespace Spreadsheet.Text

/-- The character of a digit below ten. -/
def digitChar (n : Nat) : Char :=
  -- The ten digits follow one another.
  Char.ofNat (0x30 + n)

/-- The decimal digits of a natural number, without leading zeros. -/
def natDigits (n : Nat) : List Char :=
  -- The last digit is the remainder, the others belong to the quotient.
  if n < 10 then [digitChar n] else natDigits (n / 10) ++ [digitChar (n % 10)]

/-- A whole number in decimal, with a minus sign where it is negative. -/
def intDigits (n : Int) : List Char :=
  -- Zero has no sign.
  if n < 0 then '-' :: natDigits n.natAbs else natDigits n.natAbs

/-- A whole number as text. -/
def ofInt (n : Int) : String :=
  -- The text is made of the digits alone.
  String.ofList (intDigits n)

end Spreadsheet.Text
