import Spreadsheet.Function.Argument

/-! Functions that draw one number from all of their arguments. -/

namespace Spreadsheet.Aggregate

/-- The sum of the numbers. -/
def sum (arguments : List Value) : Except Failure Value := do
  -- No numbers have the sum zero.
  let total ← (Number.sum (← Argument.numbers arguments) : Except Fault Number)
  return .number total.normalize

/-- The arithmetic mean of the numbers, zero if there are none. -/
def average (arguments : List Value) : Except Failure Value := do
  -- The sum is divided by the count.
  match ← Argument.numbers arguments with
  | [] => return .whole 0
  | ns =>
    let total ← (Number.sum ns : Except Fault Number)
    let mean ← (total.div (.whole ns.length) : Except Fault Number)
    return .number mean.normalize

/-- The number that survives pairwise comparison from the left, zero if there are none. -/
def survivor (better : Number → Number → Number) (arguments : List Value) : Except Failure Value := do
  -- Of numbers worth the same the first survives.
  match ← Argument.numbers arguments with
  | [] => return .whole 0
  | n :: rest => return .number (rest.foldl better n)

/-- The smallest number. -/
def least (arguments : List Value) : Except Failure Value := survivor Number.least arguments

/-- The largest number. -/
def greatest (arguments : List Value) : Except Failure Value := survivor Number.greatest arguments

/-- How many values read as numbers. -/
def count (arguments : List Value) : Except Failure Value := do
  -- Text counts if it starts with a number.
  return .whole (← Argument.numbers arguments).length

/-- A value that is neither nothing nor the empty text. -/
def isFilled : Value → Bool
  -- Everything else fills a cell.
  | .blank => false
  | .text s => s ≠ ""
  | _ => true

/-- How many values fill a cell. -/
def countFilled (arguments : List Value) : Except Failure Value :=
  -- The types of the values do not matter.
  .ok (.whole ((Value.leavesOfAll arguments).countP isFilled))

end Spreadsheet.Aggregate
