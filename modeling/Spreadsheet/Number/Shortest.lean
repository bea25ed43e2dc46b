import Spreadsheet.Number.Double
import Spreadsheet.Text.Decimal

/-!
The shortest decimal of a double: the fewest digits that read back as that double, and of those the
nearest to it.
-/

namespace Spreadsheet.Double

/-- The decimal number `digits * 10 ^ exponent`. -/
structure Decimal where
  digits : Nat
  exponent : Int
  deriving DecidableEq, Repr

/--
The numbers that round to a double, over one denominator: the double itself in the middle, and the
two ends, which belong to it if its significand is even.
-/
structure Interval where
  low : Nat
  middle : Nat
  high : Nat
  denominator : Nat
  closed : Bool

namespace Interval

/-- The interval of a double with this magnitude. -/
def ofMagnitude (significand : Nat) (exponent : Int) : Interval :=
  -- Quarters of the last place reach both ends; below a power of two the gap is half as wide.
  let below := if significand = hiddenBit && leastExponent < exponent then 1 else 2
  let place := exponent - 2
  let unit := if 0 ≤ place then 1 <<< place.toNat else 1
  { low := (4 * significand - below) * unit
    middle := 4 * significand * unit
    high := (4 * significand + 2) * unit
    denominator := if 0 ≤ place then 1 else 1 <<< (-place).toNat
    closed := significand % 2 == 0 }

/-- The interval measured in steps of `10 ^ exponent`, with the size of a step. -/
def inSteps (interval : Interval) (exponent : Int) : Interval :=
  -- A step below one multiplies the numbers instead of the denominator.
  if 0 ≤ exponent then
    { interval with denominator := interval.denominator * Nat.pow 10 exponent.toNat }
  else
    let factor := Nat.pow 10 (-exponent).toNat
    { interval with
      low := interval.low * factor
      middle := interval.middle * factor
      high := interval.high * factor }

/-- A whole number that lies in the interval. -/
def holds (interval : Interval) (n : Nat) : Bool :=
  -- The ends count for closed intervals only.
  let point := n * interval.denominator
  if interval.closed then interval.low ≤ point && point ≤ interval.high
  else interval.low < point && point < interval.high

/-- The whole number in the interval nearest to its middle, the even one of two equally near. -/
def nearestWhole? (interval : Interval) : Option Nat :=
  -- Only the two neighbours of the middle can be nearest.
  let below := interval.middle / interval.denominator
  let rest := interval.middle % interval.denominator
  match interval.holds below, interval.holds (below + 1) with
  | true, true =>
    if 2 * rest < interval.denominator then some below
    else if interval.denominator < 2 * rest then some (below + 1)
    else some (below + below % 2)
  | true, false => some below
  | false, true => some (below + 1)
  | false, false => none

/-- The exponent of ten of the leading digit of the middle. -/
def leading (interval : Interval) : Int :=
  -- Below one, the digits of the reciprocal tell how many zeros precede the first digit.
  if interval.denominator ≤ interval.middle then
    (Text.natDigits (interval.middle / interval.denominator)).length - 1
  else -(Text.natDigits ((interval.denominator - 1) / interval.middle)).length

end Interval

namespace Decimal

/-- Moves zeros at the end of the digits into the exponent. -/
def trim (digits : Nat) (exponent : Int) : Decimal :=
  -- Zero itself has no digit to keep.
  if 0 < digits ∧ digits % 10 = 0 then trim (digits / 10) (exponent + 1) else ⟨digits, exponent⟩
termination_by digits

/-- The shortest decimal of a positive double with this magnitude. -/
def shortest (significand : Nat) (exponent : Int) : Decimal :=
  -- Seventeen digits always suffice, so the search ends with a hit.
  let interval := Interval.ofMagnitude significand exponent
  let leading := interval.leading
  let found := (List.range 17).findSome? fun (more : Nat) =>
    ((interval.inSteps (leading - more)).nearestWhole?).map (trim · (leading - more))
  found.getD ⟨0, 0⟩

end Decimal
end Spreadsheet.Double
