import Spreadsheet.Value.Convert

/-! Cells: a value, perhaps with the formula it comes from. -/

namespace Spreadsheet

/-- How a cell presents its value. -/
inductive CellType where
  /-- As text, and so for everything without a type of its own. -/
  | text
  /-- As a number. -/
  | number
  /-- As a truth value. -/
  | boolean
  /-- As a date. -/
  | date
  /-- In a way given from outside. -/
  | other (name : String)
  deriving DecidableEq, Repr

namespace CellType

/-- The name of a cell type. -/
def name : CellType → String
  -- Names are in lower case.
  | text => "text"
  | number => "number"
  | boolean => "boolean"
  | date => "date"
  | other name => name

/-- The cell type with a name. -/
def named : String → CellType
  -- Unknown names are kept.
  | "text" => text
  | "number" => number
  | "boolean" => boolean
  | "date" => date
  | name => other name

/-- The cell type of a value. -/
def ofValue (v : Value) : Except Failure CellType := do
  -- Values without a type have no cell type either.
  match ← v.type with
  | .number => return number
  | .boolean => return boolean
  | .date => return date
  | .null | .text | .array => return text

end CellType

/-- A cell of a sheet. -/
structure Cell where
  value : Value
  formula : Option String
  type : CellType

namespace Cell

/-- The formula that a cell computes; an empty one counts as none. -/
def activeFormula? (cell : Cell) : Option String :=
  -- Without a formula the cell stands for its value.
  cell.formula.filter (· ≠ "")

/-- The cell of a value that someone entered: a text with an equals sign in front is a formula. -/
def ofValue (v : Value) : Except Failure Cell :=
  -- A formula has no value until it is computed.
  match v with
  | .text s =>
    if s.toList.head? = some '=' then .ok ⟨.blank, some s, .text⟩ else .ok ⟨v, none, .text⟩
  | v => do return ⟨v, none, ← CellType.ofValue v⟩

end Cell

/-- What someone enters: a value, or a cell as a whole. -/
inductive Input where
  /-- A value, or a formula as text. -/
  | value (v : Value)
  /-- A cell that is taken as it is. -/
  | cell (c : Cell)

/-- The cell that an input makes. -/
def Input.toCell : Input → Except Failure Cell
  -- Only values are looked at.
  | value v => Cell.ofValue v
  | cell c => .ok c

end Spreadsheet
