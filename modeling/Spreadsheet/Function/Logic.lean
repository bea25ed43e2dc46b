import Spreadsheet.Function.Argument

/-! Logical functions. -/

namespace Spreadsheet.Logic

/-- One of two values, by the truth of a condition. -/
def choose (condition whenTrue whenFalse : Value) : Except Failure Value :=
  -- Both values are computed before the choice.
  .ok (if condition.toTruth then whenTrue else whenFalse)

/-- All values are true; so it is without values. -/
def all (arguments : List Value) : Except Failure Value :=
  -- Lists count by their values.
  .ok (.truth ((Value.leavesOfAll arguments).all Value.toTruth))

/-- Some value is true; so it is not without values. -/
def any (arguments : List Value) : Except Failure Value :=
  -- Lists count by their values.
  .ok (.truth ((Value.leavesOfAll arguments).any Value.toTruth))

/-- The opposite truth. -/
def negate (value : Value) : Except Failure Value :=
  -- A list is true or false as a whole.
  .ok (.truth (!value.toTruth))

end Spreadsheet.Logic
