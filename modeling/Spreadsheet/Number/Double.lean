/-!
Doubles and the exact numbers they stand for: what a double is worth, and the double nearest to a
quotient.
-/

namespace Spreadsheet.Double

/-- The significand bit that normal doubles leave out. -/
def hiddenBit : Nat := 0x10000000000000

/-- The bits of positive infinity; larger magnitudes round to it. -/
def infinityBits : Nat := 0x7FF0000000000000

/-- The sign bit. -/
def signBit : Nat := 0x8000000000000000

/-- The exponent of the last place of the smallest doubles. -/
def leastExponent : Int := -1074

/-- The double that is no number. -/
def nan : Float := 0.0 / 0.0

/-- What a double is worth, signs of zero and payloads of NaN aside. -/
inductive Exact where
  /-- No number at all. -/
  | nan
  /-- One of the two infinities. -/
  | infinite (negative : Bool)
  /-- The number `significand * 2 ^ exponent`. -/
  | finite (significand : Int) (exponent : Int)
  deriving DecidableEq, Repr

/-- A double with the sign bit set, negative zero included. -/
def isNegative (x : Float) : Bool :=
  -- The sign is the topmost bit.
  signBit ≤ x.toBits.toNat

/-- The magnitude of a finite double as a significand and an exponent of two. -/
def magnitude (x : Float) : Nat × Int :=
  -- Below the exponent field lie 52 bits; a field of zero has no hidden bit.
  let bits := x.toBits.toNat % signBit
  let field := bits / hiddenBit
  let fraction := bits % hiddenBit
  if field = 0 then (fraction, leastExponent) else (hiddenBit + fraction, field - 1075)

/-- What a double is worth. -/
def exact (x : Float) : Exact :=
  -- Bits beyond those of infinity are NaN.
  let bits := x.toBits.toNat % signBit
  if infinityBits < bits then .nan
  else if bits = infinityBits then .infinite (isNegative x)
  else
    let (significand, exponent) := magnitude x
    .finite (if isNegative x then -significand else significand) exponent

/-- The whole number nearest to a quotient, the even one of two equally near. -/
def roundHalfEven (num den : Nat) : Nat :=
  -- Twice the remainder against the divisor tells on which side of the half the quotient lies.
  let quotient := num / den
  let twice := 2 * (num % den)
  if twice < den then quotient
  else if den < twice then quotient + 1
  else quotient + quotient % 2

/-- A quotient of natural numbers divided by a power of two, as a quotient again. -/
def scaleDown (num den : Nat) (exponent : Int) : Nat × Nat :=
  -- A negative exponent multiplies.
  if 0 ≤ exponent then (num, den <<< exponent.toNat) else (num <<< (-exponent).toNat, den)

/-- The exponent of the last place of the double nearest to a positive quotient. -/
def lastPlace (num den : Nat) : Int :=
  -- The quotient of the leading bits is one place too high at most.
  let guess : Int := (num.log2 : Int) - den.log2
  let (top, bottom) := scaleDown num den guess
  let lead := if top < bottom then guess - 1 else guess
  max (lead - 52) leastExponent

/-- The bits of the double nearest to a quotient, sign aside. -/
def nearestBits (num den : Nat) : Nat :=
  -- Adding the rounded significand to the exponent field carries into it where rounding does.
  if num = 0 then 0
  else
    let exponent := lastPlace num den
    let (top, bottom) := scaleDown num den exponent
    let bits := (exponent - leastExponent).toNat * hiddenBit + roundHalfEven top bottom
    min bits infinityBits

/-- The double nearest to a quotient, infinity if the quotient is out of range. -/
def nearest (negative : Bool) (num den : Nat) : Float :=
  -- The sign does not take part in rounding.
  Float.ofBits (UInt64.ofNat (nearestBits num den + if negative then signBit else 0))

/-- The double nearest to `significand * 10 ^ exponent`. -/
def ofDecimal (negative : Bool) (significand : Nat) (exponent : Int) : Float :=
  -- Exponents far outside the range of doubles decide without any power of ten.
  if significand = 0 then nearest negative 0 1
  else if 400 < exponent then nearest negative (1 <<< 2000) 1
  else if exponent + significand.log2 / 3 < -400 then nearest negative 0 1
  else if 0 ≤ exponent then nearest negative (significand * Nat.pow 10 exponent.toNat) 1
  else nearest negative significand (Nat.pow 10 (-exponent).toNat)

namespace Exact

/-- The order of two exact values; nothing compares with NaN. -/
def compare? : Exact → Exact → Option Ordering
  -- Two finite values are compared as whole numbers at the finer of their two places.
  | nan, _ | _, nan => none
  | infinite a, infinite b => some (compare b.toNat a.toNat)
  | infinite negative, finite _ _ => some (if negative then .lt else .gt)
  | finite _ _, infinite negative => some (if negative then .gt else .lt)
  | finite a p, finite b q =>
    let place := min p q
    some (compare (a * (1 <<< (p - place).toNat : Nat)) (b * (1 <<< (q - place).toNat : Nat)))

/-- The greatest whole number not above a finite value. -/
def floor (significand exponent : Int) : Int :=
  -- A negative exponent divides, and the quotient goes down.
  if 0 ≤ exponent then significand * (1 <<< exponent.toNat : Nat)
  else Int.fdiv significand (1 <<< (-exponent).toNat : Nat)

end Exact
end Spreadsheet.Double
