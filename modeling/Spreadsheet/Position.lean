import Spreadsheet.Failure
import Spreadsheet.Number.Literal
import Spreadsheet.Text.Case

/-! Where cells are: columns and their letters, positions and their ids. -/

namespace Spreadsheet

/-- The name of a cell, by which dependencies and cached values are kept. -/
abbrev CellId := String

namespace Column

/-- The number of columns, from A to ZZZ. -/
def count : Nat := 18278

/-- The letter at a place of the alphabet. -/
def letter (n : Nat) : Char :=
  -- The capitals follow one another.
  Char.ofNat (0x41 + n)

/-- The letters of the column with this number, counted from one. -/
def letters (number : Nat) : List Char :=
  -- There is no digit for zero, so the number goes down by one before each division.
  if number = 0 then [] else letters ((number - 1) / 26) ++ [letter ((number - 1) % 26)]

/-- The number of a capital letter, one for A. -/
def value? (c : Char) : Option Nat :=
  -- Other characters have none.
  if 'A' ≤ c ∧ c ≤ 'Z' then some (c.toNat - 0x40) else none

/-- The number of the column with these capital letters, counted from one. -/
def number? (cs : List Char) : Option Nat :=
  -- Each letter shifts what was read before by one place of twenty-six.
  cs.foldlM (fun number c => (value? c).map (number * 26 + ·)) 0

/-- The index of the column with these letters, in either case, counted from zero. -/
def index (letters : String) : Except Failure Int :=
  -- One to three letters name a column.
  let cs := (Text.upper letters).toList
  if cs = [] ∨ 3 < cs.length then .error (.formula (.invalidColumn letters))
  else
    match number? cs with
    | some number => .ok (number - 1)
    | none => .error (.formula (.invalidColumn letters))

/-- The letters of the column with this index, if there is such a column. -/
def name (index : Int) : Except Fault (List Char) :=
  -- The two ends have messages of their own.
  if index < 0 then .error (.columnBelowFirst index)
  else if count ≤ index then .error (.columnBeyondLast (index + 1))
  else .ok (letters (index.toNat + 1))

end Column

/-- A place on a sheet, both coordinates counted from zero. -/
structure Position where
  column : Int
  row : Int
  deriving DecidableEq, Repr

namespace Position

/-- The id of a position: column letters, then the row counted from one. -/
def id (p : Position) : CellId :=
  -- Columns beyond the last one have letters too, though no sheet has them.
  String.ofList (Column.letters (p.column + 1).toNat ++ Text.intDigits (p.row + 1))

/-- The id of a position that a sheet can have. -/
def checkedId (p : Position) : Except Fault CellId := do
  -- The column is checked before the row.
  let letters ← Column.name p.column
  if Nat.pow 10 digitLimit ≤ (p.row + 1).natAbs then throw .tooLongToWrite
  return String.ofList (letters ++ Text.intDigits (p.row + 1))

/-- A character that counts as a column letter in a reference. -/
def isLetter (c : Char) : Bool :=
  -- Four characters beyond ASCII differ from a letter by case only.
  c.isAlpha || c = '\u017F' || c = '\u0131' || c = '\u212A' || c = '\u0130'

/-- The two parts of a reference, letters and digits, if the text is one. -/
def parts? (s : String) : Option (List Char × List Char) :=
  -- One line end may follow.
  let cs := s.toList
  let letters := cs.takeWhile isLetter
  let rest := cs.dropWhile isLetter
  let digits := rest.takeWhile Char.isDigit
  let tail := rest.dropWhile Char.isDigit
  if letters ≠ [] ∧ digits ≠ [] ∧ (tail = [] ∨ tail = ['\n']) then some (letters, digits) else none

/-- A text of the form of a reference. -/
def isReference (s : String) : Bool :=
  -- Neither the row nor the column has to exist.
  (parts? s).isSome

/-- The position that a text names; nothing if it is no reference or the row is zero. -/
def ofText? (s : String) : Except Failure (Option Position) :=
  -- The row is read before the column is looked up.
  match parts? s with
  | none => .ok none
  | some (letters, digits) => do
    if digitLimit < digits.length then throw (.fault (.tooLongToRead digits.length))
    let row := Literal.digitsValue digits
    if row = 0 then return none
    return some ⟨← Column.index (String.ofList letters), row - 1⟩

/-- The position that a text names, a failure if it names none. -/
def ofText (s : String) : Except Failure Position := do
  -- The failure shows the text.
  match ← ofText? s with
  | some p => return p
  | none => throw (.formula (.invalidReference s))

end Position

/-- A rectangle of cells by two opposite corners. -/
structure Area where
  start : Position
  finish : Position
  deriving DecidableEq, Repr

namespace Area

/-- The whole numbers between two bounds, in either order, both included. -/
def between (a b : Int) : List Int :=
  -- The count is one more than the distance.
  (List.range (b - a).natAbs.succ).map fun (steps : Nat) => min a b + steps

/-- The positions of an area, column by column. -/
def positions (area : Area) : List Position :=
  -- Which corners are given does not matter.
  (between area.start.column area.finish.column).flatMap fun column =>
    (between area.start.row area.finish.row).map fun row => ⟨column, row⟩

/-- The ids of the cells of an area, column by column. -/
def ids (area : Area) : List CellId :=
  -- The letters are found once for each column.
  (between area.start.column area.finish.column).flatMap fun column =>
    let letters := Column.letters (column + 1).toNat
    (between area.start.row area.finish.row).map fun row =>
      String.ofList (letters ++ Text.intDigits (row + 1))

/-- The ids of the cells of an area that a sheet can have. -/
def checkedIds (area : Area) : Except Fault (List CellId) := do
  -- Columns are gone through on the outside, and the first cell that no sheet has decides.
  let columns ← (between area.start.column area.finish.column).mapM fun column =>
    (between area.start.row area.finish.row).mapM fun row => Position.checkedId ⟨column, row⟩
  return columns.flatten

end Area
end Spreadsheet
