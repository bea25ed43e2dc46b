import Spreadsheet.Sheet

/-!
Worksheets, and the view of one that formulas read from. A view knows how far the worksheet reached
when it was made and sees nothing beyond.
-/

namespace Spreadsheet

/-- What a worksheet stores in a cell. -/
inductive Stored where
  /-- A value. -/
  | value (v : Value)
  /-- A formula for an area, by its text. -/
  | arrayFormula (text : String)
  /-- A text in runs of different looks. -/
  | richText (runs : List String)

/-- A worksheet: what it stores at each position. A stored blank takes part in its extent. -/
structure Worksheet where
  cells : Table Position Stored
  deriving Inhabited

namespace Stored

/-- The value that a stored one reads as. -/
def toValue : Stored → Except Fault Value
  -- Numerals become doubles, days become moments, times and durations become texts.
  | arrayFormula text => .ok (.text text)
  | richText runs => .ok (.text (String.join runs))
  | value (.foreign (.numeral n)) => n.toFloat.map .float
  | value (.foreign (.time t)) => .ok (.text (String.ofList t.chars))
  | value (.foreign (.duration d)) => .ok (.text (String.ofList d.chars))
  | value (.day d) => .ok (.moment (.ofDate d))
  | value v => .ok v

/-- The cell that a stored value reads as; a blank reads as no cell. -/
def toCell? (stored : Stored) : Except Failure (Option Cell) := do
  -- The value is taken as if someone had entered it.
  match ← (stored.toValue : Except Fault Value) with
  | .blank => return none
  | v => return some (← Cell.ofValue v)

end Stored

namespace Stored

/-- The most characters that a worksheet keeps of a text. -/
def textLimit : Nat := 32767

/-- A control character; tabs and line ends are none. -/
def isControl (c : Char) : Bool :=
  -- Everything below the blank apart from three.
  c < ' ' && c ≠ '\t' && c ≠ '\n' && c ≠ '\r'

/-- What a worksheet keeps of a value that it is given. -/
def kept : Stored → Except Fault Stored
  -- A text is cut before it is looked at; texts of runs and formulas for areas are kept as they are.
  | value (.text s) =>
    let cs := s.toList.take textLimit
    if cs.any isControl then .error .controlCharacter else .ok (value (.text (String.ofList cs)))
  | value (.list vs) => .error (.unstorable (String.ofList (Value.list vs).describe))
  | stored => .ok stored

end Stored

namespace Worksheet

/-- A worksheet without cells. -/
def empty : Worksheet := ⟨.empty⟩

/-- Stores a value at the position that a text names. -/
def store (worksheet : Worksheet) (reference : String) (stored : Stored) :
    Except Failure Worksheet := do
  -- What was there before is replaced.
  let p ← Position.ofText reference
  return ⟨worksheet.cells.put p (← (stored.kept : Except Fault Stored))⟩

/-- Stores some values one after the other. -/
def storeAll (worksheet : Worksheet) (cells : List (String × Stored)) : Except Failure Worksheet :=
  -- The first failure ends it.
  cells.foldlM (fun worksheet (reference, stored) => worksheet.store reference stored) worksheet

/-- The number of columns up to the last one with a cell, one for an empty worksheet. -/
def width (worksheet : Worksheet) : Int :=
  -- Blank cells count.
  worksheet.cells.keys.foldl (fun width p => max width (p.column + 1)) 1

/-- The number of rows up to the last one with a cell, one for an empty worksheet. -/
def height (worksheet : Worksheet) : Int :=
  -- Blank cells count.
  worksheet.cells.keys.foldl (fun height p => max height (p.row + 1)) 1

end Worksheet

/-- A view of a worksheet with the extent that it had when the view was made. -/
structure WorksheetView where
  worksheet : Worksheet
  width : Int
  height : Int

namespace WorksheetView

/-- A view of a worksheet as it is. -/
def of (worksheet : Worksheet) : WorksheetView := ⟨worksheet, worksheet.width, worksheet.height⟩

/-- The same view after the worksheet has changed. -/
def onto (view : WorksheetView) (worksheet : Worksheet) : WorksheetView :=
  -- The extent stays what it was.
  { view with worksheet := worksheet }

/-- The cell at a position; beyond the extent there is none, and before the first cell is a fault. -/
def cellAt (view : WorksheetView) (p : Position) : Except Failure (Option Cell) :=
  -- The far ends are tested before the near ones.
  if view.height < p.row + 1 ∨ view.width < p.column + 1 then .ok none
  else if p.row < 0 ∨ p.column < 0 then .error (.fault .cellBeforeFirst)
  else
    match view.worksheet.cells.get? p with
    | none => .ok none
    | some stored => stored.toCell?

/-- A view as formulas see it. -/
def sheet (view : WorksheetView) : Sheet := fun p =>
  -- Where reading fails, formulas find no cell.
  match view.cellAt p with
  | .ok cell => cell
  | .error _ => none

end WorksheetView
end Spreadsheet
