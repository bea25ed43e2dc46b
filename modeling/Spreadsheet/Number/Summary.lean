import Spreadsheet.Number.Basic

/-!
Summary statistics: mean, variance and median. Numbers that fit in machine words are summed pairwise
as doubles; a list with a larger number is summed exactly from left to right.
-/

namespace Spreadsheet.Number

/-- The sum of fewer than eight doubles, from left to right. -/
def plainSum (xs : List Float) : Float :=
  -- Negative zero is the neutral start.
  xs.foldl (· + ·) (-0.0)

/-- Eight running sums. -/
structure Lanes where
  a : Float
  b : Float
  c : Float
  d : Float
  e : Float
  f : Float
  g : Float
  h : Float

/-- The total of eight running sums, added in pairs. -/
def Lanes.total (l : Lanes) : Float :=
  -- Neighbours first, then pairs of neighbours, then the two halves.
  ((l.a + l.b) + (l.c + l.d)) + ((l.e + l.f) + (l.g + l.h))

/-- Adds each full block of eight to the running sums, then the rest to their total. -/
def lanesSum : Lanes → List Float → Float
  -- The rest is shorter than a block.
  | l, a :: b :: c :: d :: e :: f :: g :: h :: rest =>
    lanesSum ⟨l.a + a, l.b + b, l.c + c, l.d + d, l.e + e, l.f + f, l.g + g, l.h + h⟩ rest
  | l, rest => rest.foldl (· + ·) l.total

/-- The sum of at most 128 doubles in eight lanes. -/
def blockSum : List Float → Float
  -- The first block opens the lanes.
  | a :: b :: c :: d :: e :: f :: g :: h :: rest => lanesSum ⟨a, b, c, d, e, f, g, h⟩ rest
  | xs => plainSum xs

/-- The pairwise sum of doubles: long lists are halved at a multiple of eight. -/
def pairwiseSum (xs : List Float) : Float :=
  -- Each half is shorter, since a list beyond 128 has at least 64 in its first half.
  if xs.length ≤ 128 then blockSum xs
  else
    let middle := xs.length / 2 - xs.length / 2 % 8
    pairwiseSum (xs.take middle) + pairwiseSum (xs.drop middle)
termination_by xs.length
decreasing_by
  · simp only [List.length_take]; omega
  · simp only [List.length_drop]; omega

/-- The doubles of a list whose whole numbers all fit in 64 bits, signed or unsigned. -/
def machineFloats? (ns : List Number) : Option (List Float) :=
  -- One larger number spoils the whole list.
  ns.mapM fun
    | float x => some x
    | nan _ => some Double.nan
    | whole n =>
      if -0x8000000000000000 ≤ n ∧ n < 0x10000000000000000 then
        (floatOfInt n).toOption
      else none

/-- The arithmetic mean of doubles. -/
def floatMean (xs : List Float) : Float :=
  -- The count is small enough to be exact.
  pairwiseSum xs / xs.length.toFloat

/-- The mean of numbers as a quotient of their exact sum. -/
def exactMean (ns : List Number) : Except Fault Number := do
  -- The sum is exact as long as no double takes part.
  (← sum ns).div (whole ns.length)

/-- The sum of squared distances from the mean, over the count less `spared`. -/
def variance (spared : Nat) (ns : List Number) : Except Fault Float :=
  -- Both ways subtract the same mean from every number and square.
  match machineFloats? ns with
  | some xs =>
    let mean := floatMean xs
    .ok (pairwiseSum (xs.map fun x => (x - mean) * (x - mean)) / (xs.length - spared).toFloat)
  | none => do
    let mean ← exactMean ns
    let squares ← ns.mapM fun n => do
      let distance ← n.sub mean
      distance.mul distance
    (← (← sum squares).div (whole (ns.length - spared : Nat))).toFloat

/-- The square root of the variance. -/
def deviation (spared : Nat) (ns : List Number) : Except Fault Float := do
  -- A variance is never negative.
  return (← variance spared ns).sqrt

/-- Inserts a number into a list that falls, in front of those worth the same. -/
def insertFalling (n : Number) : List Number → List Number
  -- Only a number above it stays in front.
  | [] => [n]
  | m :: rest => if n.below m then m :: insertFalling n rest else n :: m :: rest

/-- The numbers in rising order. -/
def sorted (ns : List Number) : List Number :=
  -- The largest so far is at hand, so a rising list is read once.
  (ns.foldl (fun falling n => insertFalling n falling) []).reverse

/-- The middle one or two of a list. -/
def middle (ns : List Number) : List Number :=
  -- An odd count has one middle, an even one has two.
  if ns.length % 2 = 1 then (ns.drop (ns.length / 2)).take 1
  else (ns.drop (ns.length / 2 - 1)).take 2

/-- The median: the mean of the middle of the sorted list, NaN if a double in it is NaN. -/
def median (ns : List Number) : Except Fault Float :=
  -- Sorting is by what the numbers are worth, and the exact total becomes a double to be divided.
  match machineFloats? ns with
  | some xs =>
    match xs.find? Float.isNaN with
    | some x => .ok x
    | none =>
      .ok (floatMean ((middle (sorted (xs.map float))).filterMap fun
        | float x => some x
        | _ => none))
  | none => do
    let center := middle (sorted ns)
    return (← (← sum center).toFloat) / center.length.toFloat

end Spreadsheet.Number
