import Spreadsheet.Function.Argument
import Spreadsheet.Number.Power

/-! Functions of one number: rounding, absolute value, roots, and powers. -/

namespace Spreadsheet.Rounding

/-- A power of ten: whole for natural exponents, otherwise a double. -/
def powerOfTen (exponent : Int) : Except Fault Number :=
  -- A negative exponent goes through the powers of doubles.
  if 0 ≤ exponent then .ok (.whole (Nat.pow 10 exponent.toNat))
  else do
    let e ← Number.floatOfInt exponent
    return .float (Float.pow 10.0 e)

/-- A number rounded to some decimals, halves away from zero. -/
def roundHalfAway (n : Number) (decimals : Int) : Except Fault Number := do
  -- A half is added to the scaled absolute value, and its floor is scaled back.
  let factor ← powerOfTen decimals
  let scaled ← n.abs.mul factor
  let raised ← scaled.add (.float 0.5)
  let size ← Number.div (.whole (← raised.floor)) factor
  size.mul (.whole (if Number.atMost (.whole 0) n then 1 else -1))

/-- A number rounded to the given decimals. -/
def round (value decimals : Value) : Except Failure Value := do
  -- Arguments that are no finite numbers give nothing.
  let n ← Argument.finite? value
  let d ← Argument.finite? decimals
  match n, d with
  | some n, some d =>
    let places ← (d.truncate : Except Fault Int)
    let rounded ← (roundHalfAway n places : Except Fault Number)
    return .number rounded.normalize
  | _, _ => return .blank

/-- A function of one finite number, nothing for other arguments. -/
def onFinite (f : Number → Except Fault Int) (value : Value) : Except Failure Value := do
  -- The result is a whole number.
  match ← Argument.finite? value with
  | some n => return .whole (← (f n : Except Fault Int))
  | none => return .blank

/-- The least whole number that is not below a number. -/
def ceiling (value : Value) : Except Failure Value := onFinite Number.ceil value

/-- The greatest whole number that is not above a number. -/
def floor (value : Value) : Except Failure Value := onFinite Number.floor value

/-- The absolute value of a number. -/
def absolute (value : Value) : Except Failure Value := do
  -- Infinities have one too.
  match ← Argument.number? value with
  | some n => return .number n.abs
  | none => return .blank

/-- The square root of a number, nothing below zero. -/
def squareRoot (value : Value) : Except Failure Value := do
  -- The root is taken of the nearest double.
  match ← Argument.number? value with
  | none => return .blank
  | some n =>
    if n.below (.whole 0) then return .blank
    let x ← (n.toFloat : Except Fault Float)
    return .number (Number.float x.sqrt).normalize

/-- A power, nothing where there is no real one in range. -/
def power (base exponent : Value) : Except Failure Value := do
  -- All faults of powers are of range or of zero.
  let b ← Argument.number? base
  let e ← Argument.number? exponent
  match b, e with
  | some b, some e =>
    match b.power e with
    | .ok (.real n) => return .number n
    | .ok (.complex _ _) | .error _ => return .blank
  | _, _ => return .blank

end Spreadsheet.Rounding
