import Spreadsheet.Function.Argument
import Spreadsheet.Number.Summary

/-! Statistical functions; without enough numbers they give nothing. -/

namespace Spreadsheet.Statistics

/-- A statistic of at least `enough` numbers, nothing for fewer. -/
def ofNumbers (enough : Nat) (statistic : List Number → Except Fault Number)
    (arguments : List Value) : Except Failure Value := do
  -- Values that do not read as numbers do not count.
  let ns ← Argument.numbers arguments
  if ns.length < enough then return .blank
  return .number (← (statistic ns : Except Fault Number))

/-- The median. -/
def median (arguments : List Value) : Except Failure Value :=
  -- A whole median is a whole number.
  ofNumbers 1 (fun ns => do return (Number.float (← Number.median ns)).normalize) arguments

/-- The standard deviation of a sample. -/
def sampleDeviation (arguments : List Value) : Except Failure Value :=
  -- One degree of freedom is spared; the result stays a double.
  ofNumbers 2 (fun ns => do return .float (← Number.deviation 1 ns)) arguments

/-- The standard deviation of a population. -/
def deviation (arguments : List Value) : Except Failure Value :=
  -- The result stays a double.
  ofNumbers 1 (fun ns => do return .float (← Number.deviation 0 ns)) arguments

/-- The variance of a sample. -/
def sampleVariance (arguments : List Value) : Except Failure Value :=
  -- One degree of freedom is spared; a whole variance is a whole number.
  ofNumbers 2 (fun ns => do return (Number.float (← Number.variance 1 ns)).normalize) arguments

/-- The variance of a population. -/
def variance (arguments : List Value) : Except Failure Value :=
  -- A whole variance is a whole number.
  ofNumbers 1 (fun ns => do return (Number.float (← Number.variance 0 ns)).normalize) arguments

/-- How often each number was seen, and the number that first reached the highest count. -/
structure Tally where
  counts : List (Number × Nat)
  leader : Option Number
  highest : Nat

namespace Tally

/-- Nothing seen yet. -/
def empty : Tally := ⟨[], none, 0⟩

/-- How often a number was seen. -/
def countOf (tally : Tally) (n : Number) : Nat :=
  -- Numbers worth the same are one, and so is a NaN that is met again.
  match tally.counts.find? (·.1.alike n) with
  | some (_, count) => count
  | none => 0

/-- Sees one more number; it leads if it passes the highest count. -/
def see (tally : Tally) (n : Number) : Tally :=
  -- Reaching the highest count again does not change the leader.
  let count := tally.countOf n + 1
  let counts := (n, count) :: tally.counts
  if tally.highest < count then ⟨counts, some n, count⟩ else { tally with counts := counts }

end Tally

/-- The number that is first to reach the highest count, nothing if no number repeats. -/
def mode (arguments : List Value) : Except Failure Value := do
  -- A single occurrence makes no mode.
  let tally := (← Argument.numbers arguments).foldl Tally.see .empty
  match tally.leader with
  | some n => return if 1 < tally.highest then .number n else .blank
  | none => return .blank

end Spreadsheet.Statistics
