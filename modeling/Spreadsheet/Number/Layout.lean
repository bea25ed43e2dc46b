import Spreadsheet.Number.Shortest

/-! How the digits of a double are laid out as text. -/

namespace Spreadsheet.Double

/-- The choices that turn digits and an exponent into text. -/
structure Layout where
  /-- The least exponent of the leading digit that is written without an exponent. -/
  leastPositional : Int
  /-- The least exponent beyond those. -/
  leastScientific : Int
  /-- Whole values keep a point and a zero. -/
  pointed : Bool
  /-- The least count of digits in a written exponent. -/
  exponentWidth : Nat

namespace Layout

/-- Doubles are positional from 0.0001 to below ten to the sixteenth, and whole ones end in `.0`. -/
def plain : Layout := ⟨-4, 16, true, 2⟩

/-- The parts of a complex number are laid out the same, without the `.0`. -/
def bare : Layout := { plain with pointed := false }

/-- An exponent with its sign, filled up with zeros. -/
def exponentDigits (layout : Layout) (exponent : Int) : List Char :=
  -- The sign is always there.
  let digits := Text.natDigits exponent.natAbs
  (if exponent < 0 then '-' else '+') ::
    (List.replicate (layout.exponentWidth - digits.length) '0' ++ digits)

/-- The text of a positive decimal. -/
def digits (layout : Layout) (decimal : Decimal) : List Char :=
  -- The leading digit's exponent decides between the two notations.
  let ds := Text.natDigits decimal.digits
  let leading := decimal.exponent + ds.length - 1
  if layout.leastPositional ≤ leading ∧ leading < layout.leastScientific then
    if 0 ≤ decimal.exponent then
      ds ++ List.replicate decimal.exponent.toNat '0' ++ (if layout.pointed then ['.', '0'] else [])
    else if 0 ≤ leading then
      let before := (leading + 1).toNat
      ds.take before ++ '.' :: ds.drop before
    else '0' :: '.' :: (List.replicate (-leading - 1).toNat '0' ++ ds)
  else
    ds.take 1 ++ (if ds.length = 1 then [] else '.' :: ds.drop 1) ++
      'e' :: layout.exponentDigits leading

/-- The text of a double. -/
def text (layout : Layout) (x : Float) : String :=
  -- Infinities keep their sign and NaN has none.
  let sign := if isNegative x then ['-'] else []
  match exact x with
  | .nan => "nan"
  | .infinite _ => String.ofList (sign ++ ['i', 'n', 'f'])
  | .finite 0 _ => String.ofList (sign ++ '0' :: if layout.pointed then ['.', '0'] else [])
  | .finite _ _ =>
    let (significand, exponent) := magnitude x
    String.ofList (sign ++ layout.digits (Decimal.shortest significand exponent))

end Layout

/-- The text of a double in its usual layout. -/
def text (x : Float) : String :=
  -- All doubles outside complex numbers are written so.
  Layout.plain.text x

end Spreadsheet.Double
