import Spreadsheet.Fault
import Spreadsheet.Number.Double
import Spreadsheet.Origin

/-! Spreadsheet numbers: exact whole numbers of any size, and doubles. -/

namespace Spreadsheet

/-- A number, exact as long as it is whole and never mixed with a double. -/
inductive Number where
  /-- A whole number of any size. -/
  | whole (n : Int)
  /-- A double; a NaN among them has just been computed. -/
  | float (x : Float)
  /-- A NaN with an origin to know it by. -/
  | nan (origin : Origin)
  deriving Inhabited

namespace Number

/-- What a number is worth. -/
def exact : Number → Double.Exact
  -- A whole number is its own significand.
  | whole n => .finite n 0
  | float x => Double.exact x
  | nan _ => .nan

/-- The order of two numbers by what they are worth; nothing compares with NaN. -/
def compare? (a b : Number) : Option Ordering :=
  -- A whole number and a double compare without rounding.
  a.exact.compare? b.exact

/-- Two numbers worth the same. -/
def same (a b : Number) : Bool :=
  -- NaN is not the same as itself.
  a.compare? b == some .eq

/-- Two numbers worth the same, or one NaN that is met again. -/
def alike : Number → Number → Bool
  -- A NaN is known by its origin alone.
  | nan p, nan q => p == q
  | a, b => a.same b

/-- The first number is worth less than the second. -/
def below (a b : Number) : Bool :=
  -- False whenever NaN takes part.
  a.compare? b == some .lt

/-- The first number is worth at most as much as the second. -/
def atMost (a b : Number) : Bool :=
  -- False whenever NaN takes part.
  a.below b || a.same b

/-- A number that compares equal to zero. -/
def isZero (a : Number) : Bool :=
  -- Both zeros of the doubles are zero.
  a.same (whole 0)

/-- A number that is neither infinite nor NaN. -/
def isFinite (a : Number) : Bool :=
  -- Every whole number is finite.
  match a.exact with
  | .finite _ _ => true
  | _ => false

/-- The double nearest to a whole number, if it is in range. -/
def floatOfInt (n : Int) : Except Fault Float :=
  -- Rounding to infinity shows that the number is out of range.
  let x := Double.nearest (n < 0) n.natAbs 1
  if x.isInf then .error .wholeTooLarge else .ok x

/-- A number as a double. -/
def toFloat : Number → Except Fault Float
  -- Only whole numbers can be out of range.
  | whole n => floatOfInt n
  | float x => .ok x
  | nan _ => .ok Double.nan

/-- An operation that is exact on two whole numbers and rounds everywhere else. -/
def combine (onWhole : Int → Int → Int) (onFloat : Float → Float → Float) :
    Number → Number → Except Fault Number
  -- One double makes the whole operation one on doubles.
  | whole a, whole b => .ok (whole (onWhole a b))
  | a, b => do
    let x ← a.toFloat
    let y ← b.toFloat
    return float (onFloat x y)

/-- The sum of two numbers. -/
def add (a b : Number) : Except Fault Number :=
  -- Sums of whole numbers are exact.
  combine (· + ·) (· + ·) a b

/-- The difference of two numbers. -/
def sub (a b : Number) : Except Fault Number :=
  -- Differences of whole numbers are exact.
  combine (· - ·) (· - ·) a b

/-- The product of two numbers. -/
def mul (a b : Number) : Except Fault Number :=
  -- Products of whole numbers are exact.
  combine (· * ·) (· * ·) a b

/-- The quotient of two whole numbers as the nearest double. -/
def quotient (a b : Int) : Except Fault Float :=
  -- The exact quotient is rounded once; zero over a negative number is negative zero.
  if b = 0 then .error (.divisionByZero false)
  else
    let x := Double.nearest (decide (a < 0) != decide (b < 0)) a.natAbs b.natAbs
    if x.isInf then .error .quotientTooLarge else .ok x

/-- The quotient of two numbers, always a double. -/
def div : Number → Number → Except Fault Number
  -- Whole operands are divided exactly before they are rounded.
  | whole a, whole b => (quotient a b).map float
  | a, b => do
    let x ← a.toFloat
    let y ← b.toFloat
    if y == 0.0 then throw (.divisionByZero true)
    return float (x / y)

/-- The number with the opposite sign. -/
def neg : Number → Number
  -- The whole zero has no sign to change; a NaN is computed anew.
  | whole n => whole (-n)
  | float x => float (-x)
  | nan _ => float Double.nan

/-- The absolute value. -/
def abs : Number → Number
  -- The sign bit of a double is cleared; a NaN is computed anew.
  | whole n => whole n.natAbs
  | float x => float x.abs
  | nan _ => float Double.nan

/-- The greatest whole number that is at most this number. -/
def floor (a : Number) : Except Fault Int :=
  -- Infinities and NaN have no whole neighbours.
  match a.exact with
  | .finite significand exponent => .ok (Double.Exact.floor significand exponent)
  | .infinite _ => .error .infinityToWhole
  | .nan => .error .nanToWhole

/-- The least whole number that is at least this number. -/
def ceil (a : Number) : Except Fault Int := do
  -- Seen from the other side of zero, the ceiling is a floor.
  return -(← a.neg.floor)

/-- The number without its fraction. -/
def truncate (a : Number) : Except Fault Int :=
  -- Toward zero is down for positive numbers and up for the others.
  if a.below (whole 0) then a.ceil else a.floor

/-- The whole number that a double stands for, if it stands for one. -/
def wholeOfFloat? (x : Float) : Option Int :=
  -- A number is whole if its floor is worth the same.
  match Double.exact x with
  | .finite significand exponent =>
    let n := Double.Exact.floor significand exponent
    if (whole n).same (float x) then some n else none
  | _ => none

/-- Turns doubles that stand for whole numbers into whole numbers. -/
def normalize : Number → Number
  -- Everything else stays what it is, infinities and NaN included.
  | whole n => whole n
  | float x =>
    match wholeOfFloat? x with
    | some n => whole n
    | none => float x
  | nan origin => nan origin

/-- The smaller of two numbers, the first one unless the second is below it. -/
def least (a b : Number) : Number :=
  -- Of numbers worth the same the first stays.
  if b.below a then b else a

/-- The larger of two numbers, the first one unless it is below the second. -/
def greatest (a b : Number) : Number :=
  -- Of numbers worth the same the first stays.
  if a.below b then b else a

/-- The number with its origin seen from the list in which it stands at or under a place. -/
def under (place : Nat) : Number → Number
  -- A NaN that has just been computed gets its first place here.
  | whole n => whole n
  | float x => if x.isNaN then nan (Origin.fresh.under place) else float x
  | nan origin => nan (origin.under place)

/-- The sum of a list from left to right, starting at the whole zero. -/
def sum (ns : List Number) : Except Fault Number :=
  -- Exact until the first double takes part.
  ns.foldlM add (whole 0)

end Number
end Spreadsheet
