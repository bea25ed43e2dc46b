import Spreadsheet.Value.Convert

/-! How functions read their arguments. -/

namespace Spreadsheet.Argument

/-- The numbers in some arguments, lists included, in order. -/
def numbers (arguments : List Value) : Except Failure (List Number) :=
  -- Serial numbers of dates count from the usual epoch.
  Value.numbers .from1900 (Value.leavesOfAll arguments)

/-- The number that an argument reads as, if any. -/
def number? (v : Value) : Except Failure (Option Number) :=
  -- A list of one value reads as that value.
  v.toNumber? .from1900

/-- The finite number that an argument reads as, if any. -/
def finite? (v : Value) : Except Failure (Option Number) := do
  -- Infinities and NaN read as nothing.
  return (← number? v).filter Number.isFinite

/-- The text that an argument reads as. -/
def text (v : Value) : Except Failure String :=
  -- A list of one value reads as that value, and any other list as the empty text.
  match v with
  | .list [item] => item.toText
  | .list _ => .ok ""
  | _ => v.toText

/-- A count of characters: the whole part of a number, not below zero. -/
def size (default : Int) (v : Value) : Except Failure Nat := do
  -- An argument that is no finite number counts as the default.
  match ← finite? v with
  | none => return default.toNat
  | some n => return (← (n.truncate : Except Fault Int)).toNat

end Spreadsheet.Argument
