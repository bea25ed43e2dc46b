import Spreadsheet.Cell
import Spreadsheet.Position
import Spreadsheet.Table

/-! Sheets: what formulas read cells from, and grids, the sheets that are written to. -/

namespace Spreadsheet

/-- What a formula can read: the cell at each position, if there is one. -/
abbrev Sheet := Position → Option Cell

/-- A sheet that is written cell by cell. -/
structure Grid where
  cells : Table Position Cell
  deriving Inhabited

namespace Grid

/-- A grid without cells. -/
def empty : Grid := ⟨.empty⟩

/-- The cell at a position. -/
def cellAt (grid : Grid) (p : Position) : Option Cell := grid.cells.get? p

/-- A grid as formulas see it. -/
def sheet (grid : Grid) : Sheet := grid.cellAt

/-- Puts a cell at a position, in place of any other. -/
def put (grid : Grid) (p : Position) (cell : Cell) : Grid := ⟨grid.cells.put p cell⟩

/-- Removes the cell at a position. -/
def erase (grid : Grid) (p : Position) : Grid := ⟨grid.cells.erase p⟩

/-- Enters something at a position; gives the cell it makes. -/
def enterAt (grid : Grid) (p : Position) (input : Input) : Except Failure (Cell × Grid) := do
  -- A failure leaves the grid as it was.
  let cell ← input.toCell
  return (cell, grid.put p cell)

/-- Enters something at the position that a text names; gives the cell it makes. -/
def enter (grid : Grid) (reference : String) (input : Input) : Except Failure (Cell × Grid) := do
  -- The reference is read before the input is looked at.
  let p ← Position.ofText reference
  grid.enterAt p input

/-- The cell that a text names. -/
def cell (grid : Grid) (reference : String) : Except Failure (Option Cell) := do
  -- A position without a cell is no failure.
  return grid.cellAt (← Position.ofText reference)

/-- Removes the cell that a text names. -/
def clear (grid : Grid) (reference : String) : Except Failure Grid := do
  -- Removing nothing is no failure.
  return grid.erase (← Position.ofText reference)

/-- A grid with inputs entered one after the other. -/
def ofInputs (inputs : List (String × Input)) : Except Failure Grid :=
  -- The first failure ends it.
  inputs.foldlM (fun grid (reference, input) => do return (← grid.enter reference input).2) empty

/-- A grid from a table of inputs, in which a later input replaces one with the same reference. -/
def ofTable (inputs : List (String × Input)) : Except Failure Grid :=
  -- References that differ as texts may still name one cell; then the order decides.
  ofInputs (Table.ofList inputs).rows

/-- A value that a table of rows leaves out. -/
def isGap : Input → Bool
  -- Nothing is entered for it.
  | .value .blank => true
  | _ => false

/-- A grid from rows of inputs, the first one at the upper left corner. -/
def ofRows (rows : List (List Input)) : Except Failure Grid :=
  -- Gaps leave their positions without a cell.
  let placed := rows.zipIdx.flatMap fun (row, r) =>
    row.zipIdx.map fun (input, c) => (Position.mk c r, input)
  (placed.filter fun (_, input) => !isGap input).foldlM
    (fun grid (p, input) => do return (← grid.enterAt p input).2) empty

/-- The formulas of a grid with the ids of their cells. -/
def formulas (grid : Grid) : Except Fault (List (CellId × String)) :=
  -- The first formula where no sheet has a cell is a fault.
  (grid.cells.rows.filterMap fun (p, cell) => cell.activeFormula?.map (p, ·)).mapM
    fun (p, formula) => do return (← p.checkedId, formula)

/-- The number of cells. -/
def size (grid : Grid) : Nat := grid.cells.size

end Grid
end Spreadsheet
