import Spreadsheet.Fault
import Spreadsheet.Number.Literal
import Spreadsheet.Origin

/-! Decimal numbers kept digit by digit: how they are written, and their nearest doubles. -/

namespace Spreadsheet

/-- A decimal number kept digit by digit. -/
inductive Numeral where
  /-- The number `digits * 10 ^ exponent` with a sign. -/
  | finite (negative : Bool) (digits : Nat) (exponent : Int)
  /-- One of the two infinities. -/
  | infinite (negative : Bool)
  /-- No number, with a sign and digits of its own; a signaling one admits no arithmetic. -/
  | nan (negative signaling : Bool) (payload : Nat) (origin : Origin)
  deriving DecidableEq, Repr

namespace Numeral

/-- The text of a finite numeral: positional for small negative exponents, else with an exponent. -/
def finiteChars (digits : Nat) (exponent : Int) : List Char :=
  -- The point stands behind the first digit whenever an exponent is written.
  let ds := Text.natDigits digits
  let before : Int := exponent + ds.length
  let place : Int := if exponent ≤ 0 ∧ -6 < before then before else 1
  let body :=
    if place ≤ 0 then '0' :: '.' :: (List.replicate (-place).toNat '0' ++ ds)
    else if ds.length ≤ place then ds ++ List.replicate (place.toNat - ds.length) '0'
    else ds.take place.toNat ++ '.' :: ds.drop place.toNat
  let power :=
    if before = place then []
    else 'E' :: (if before < place then ['-'] else ['+']) ++ Text.natDigits (before - place).natAbs
  body ++ power

/-- The text of a numeral. -/
def chars : Numeral → List Char
  -- A payload of zero is not written.
  | nan negative signaling payload _ =>
    (if negative then ['-'] else []) ++ (if signaling then ['s'] else []) ++ "NaN".toList ++
      (if payload = 0 then [] else Text.natDigits payload)
  | infinite negative => (if negative then ['-'] else []) ++ "Infinity".toList
  | finite negative digits exponent =>
    (if negative then ['-'] else []) ++ finiteChars digits exponent

/-- The nearest double. -/
def toFloat : Numeral → Except Fault Float
  -- A numeral beyond the doubles becomes infinite.
  | nan _ signaling _ _ => if signaling then .error .signalingToDouble else .ok Double.nan
  | infinite negative => .ok (if negative then -1.0 / 0.0 else 1.0 / 0.0)
  | finite negative digits exponent => .ok (Double.ofDecimal negative digits exponent)

/-- The numeral with its origin seen from the list in which it stands at or under a place. -/
def under (place : Nat) : Numeral → Numeral
  -- Only what is no number needs an origin.
  | nan negative signaling payload origin => nan negative signaling payload (origin.under place)
  | n => n

end Numeral
end Spreadsheet
