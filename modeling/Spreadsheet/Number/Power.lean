import Spreadsheet.Number.Basic

/-! Powers and logarithms of numbers, with the complex results of roots of negative numbers. -/

namespace Spreadsheet.Number

/-- What a power can be. -/
inductive Power where
  /-- A real number. -/
  | real (n : Number)
  /-- A complex number by its two parts. -/
  | complex (re im : Float)

/-- A double that is an odd whole number. -/
def isOdd (x : Float) : Bool :=
  -- Large doubles are even, since their last place is.
  match wholeOfFloat? x with
  | some n => n % 2 != 0
  | none => false

/-- The power of a whole number to a natural exponent. -/
def wholePower (base : Int) (exponent : Nat) : Int :=
  -- The sign is left over exactly from odd exponents; zero and one stay what they are.
  let size : Int :=
    if base.natAbs ≤ 1 ∧ exponent ≠ 0 then base.natAbs else Nat.pow base.natAbs exponent
  if base < 0 ∧ exponent % 2 = 1 then -size else size

/-- The power of a negative number to an exponent that is not whole. -/
def complexPower (base exponent : Float) : Except Fault Power :=
  -- The argument of a negative number is half a turn, times the exponent.
  let size := base.abs.pow exponent
  let phase := Float.atan2 0.0 base * exponent
  let re := size * phase.cos
  let im := size * phase.sin
  if re.isInf || im.isInf then .error .complexPowerTooLarge else .ok (.complex re im)

/-- The power of two doubles, neither of them infinite or NaN and the base not zero. -/
def finitePower (base exponent : Float) : Except Fault Power :=
  -- A negative base leaves its sign to odd exponents; other exponents lead to complex numbers.
  if base < 0.0 && (wholeOfFloat? exponent).isNone then complexPower base exponent
  else
    let size := base.abs
    let power := if size == 1.0 then 1.0 else size.pow exponent
    if power.isInf then .error .powerTooLarge
    else .ok (.real (float (if base < 0.0 && isOdd exponent then -power else power)))

/-- The power of two doubles. -/
def floatPower (base exponent : Float) : Except Fault Power :=
  -- The exponent zero comes first, then NaN, then the infinities, then the base zero.
  if exponent == 0.0 then .ok (.real (float 1.0))
  else if base.isNaN then .ok (.real (float base))
  else if exponent.isNaN then .ok (.real (float (if base == 1.0 then 1.0 else exponent)))
  else if exponent.isInf then
    let size := base.abs
    let power :=
      if size == 1.0 then 1.0
      else if decide (0.0 < exponent) == decide (1.0 < size) then exponent.abs
      else 0.0
    .ok (.real (float power))
  else if base.isInf then
    let size := if 0.0 < exponent then base.abs else 0.0
    let power := if base < 0.0 && isOdd exponent then -size else size
    .ok (.real (float power))
  else if base == 0.0 then
    if exponent < 0.0 then .error .zeroToNegative
    else .ok (.real (float (if isOdd exponent then base else 0.0)))
  else finitePower base exponent

/-- The power of two numbers, exact for a whole base and a natural exponent. -/
def power : Number → Number → Except Fault Power
  -- A negative exponent leaves the whole numbers.
  | whole base, whole exponent =>
    if 0 ≤ exponent then .ok (.real (whole (wholePower base exponent.toNat)))
    else do
      let x ← floatOfInt base
      let y ← floatOfInt exponent
      floatPower x y
  | base, exponent => do
    let x ← base.toFloat
    let y ← exponent.toFloat
    floatPower x y

/-- The natural logarithm; whole numbers beyond the doubles are split into a fraction and a power. -/
def log : Number → Except Fault Float
  -- The fraction of a large number lies between a half and one.
  | float x => if x ≤ 0.0 then .error .logarithmDomain else .ok x.log
  | nan _ => .ok Double.nan
  | whole n =>
    if n ≤ 0 then .error .logarithmDomain
    else
      match floatOfInt n with
      | .ok x => .ok x.log
      | .error _ =>
        let places := n.natAbs.log2 + 1
        let fraction := Double.nearest false n.natAbs (1 <<< places)
        if fraction == 1.0 then .ok (Float.log 0.5 + Float.log 2.0 * (places + 1).toFloat)
        else .ok (fraction.log + Float.log 2.0 * places.toFloat)

end Spreadsheet.Number
