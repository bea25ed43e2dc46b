import Std.Data.ExtTreeMap
import Std.Data.ExtTreeSet
import Spreadsheet.Position

/-! Links from cells to sets of cells, kept without empty sets. -/

namespace Spreadsheet

/-- A set of cells, listed in the order of their ids. -/
abbrev CellSet := Std.ExtTreeSet CellId

/-- The cells that each cell is linked to. -/
structure Links where
  sets : Std.ExtTreeMap CellId CellSet
  deriving Inhabited

namespace Links

/-- No links. -/
def empty : Links := ⟨∅⟩

/-- The cells that a cell is linked to. -/
def of (links : Links) (a : CellId) : CellSet :=
  -- A cell without an entry has no links.
  links.sets.getD a ∅

/-- Links a cell to these cells and to no others. -/
def put (links : Links) (a : CellId) (cells : CellSet) : Links :=
  -- An empty set is not kept.
  if cells.isEmpty then ⟨links.sets.erase a⟩ else ⟨links.sets.insert a cells⟩

/-- Adds a link. -/
def add (links : Links) (a b : CellId) : Links :=
  -- The other links of the cell stay.
  links.put a ((links.of a).insert b)

/-- Removes a link. -/
def remove (links : Links) (a b : CellId) : Links :=
  -- With its last link a cell loses its entry.
  links.put a ((links.of a).erase b)

/-- Adds a link from each of some cells to one cell. -/
def addFrom (links : Links) (cells : List CellId) (b : CellId) : Links :=
  -- Cell by cell.
  cells.foldl (fun links a => links.add a b) links

/-- Removes the link from each of some cells to one cell. -/
def removeFrom (links : Links) (cells : List CellId) (b : CellId) : Links :=
  -- Cell by cell.
  cells.foldl (fun links a => links.remove a b) links

/-- The cells that have links, in the order of their ids. -/
def linked (links : Links) : List CellId := links.sets.keys

/-- The cells that a cell is linked to, in the order of their ids. -/
def next (links : Links) (a : CellId) : List CellId := (links.of a).toList

end Links
end Spreadsheet
