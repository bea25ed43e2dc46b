import Spreadsheet.Graph.Search

/-! The dependency graph: which cells each formula reads, kept in both directions. -/

namespace Spreadsheet

/-- The dependencies between cells, and the formulas they come from. -/
structure DependencyGraph where
  /-- The cells that each cell reads. -/
  reads : Links
  /-- The cells that read each cell. -/
  readers : Links
  /-- The formula of each cell. -/
  formulas : Std.ExtTreeMap CellId String
  deriving Inhabited

namespace DependencyGraph

/-- No dependencies. -/
def empty : DependencyGraph := ⟨.empty, .empty, ∅⟩

/-- The cells that a cell reads. -/
def dependenciesOf (graph : DependencyGraph) (id : CellId) : CellSet := graph.reads.of id

/-- The cells that read a cell. -/
def dependentsOf (graph : DependencyGraph) (id : CellId) : CellSet := graph.readers.of id

/-- The formula of a cell, if one was recorded. -/
def formulaOf (graph : DependencyGraph) (id : CellId) : Option String := graph.formulas[id]?

/-- Drops what a cell reads, in both directions. -/
def dropReads (graph : DependencyGraph) (id : CellId) : DependencyGraph :=
  -- Cells that read this cell are not touched.
  { graph with
    reads := graph.reads.put id ∅
    readers := graph.readers.removeFrom (graph.reads.next id) id }

/-- Replaces what a cell reads, and its formula if one is given. -/
def setDependencies (graph : DependencyGraph) (id : CellId) (references : List CellId)
    (formula : Option String) : DependencyGraph :=
  -- What the cell read before is dropped first.
  let dropped := graph.dropReads id
  let cells := Std.ExtTreeSet.ofList references
  { reads := dropped.reads.put id cells
    readers := dropped.readers.addFrom cells.toList id
    formulas :=
      match formula with
      | some text => dropped.formulas.insert id text
      | none => dropped.formulas }

/-- Forgets the formula of a cell and what it reads. -/
def remove (graph : DependencyGraph) (id : CellId) : DependencyGraph :=
  -- Other cells may still read it.
  let dropped := graph.dropReads id
  { dropped with formulas := dropped.formulas.erase id }

/-- Room for a search: one step more than there are cells with links. -/
def room (links : Links) : Nat := links.sets.size + 1

/-- Every cell that directly or indirectly reads one of some cells, in the order of their ids. -/
def transitiveDependents (graph : DependencyGraph) (changed : List CellId) : CellSet :=
  -- The changed cells themselves are in it only if they read a changed cell.
  Std.ExtTreeSet.ofList <| Search.postorder graph.readers.next (room graph.readers) <|
    changed.flatMap graph.readers.next

/-- A cycle that can be reached from a cell. -/
def cycleFrom? (graph : DependencyGraph) (start : CellId) : Option (List CellId) :=
  -- Cells are searched in the order of their ids.
  Search.cycle? graph.reads.next (room graph.reads) start

/-- A cycle can be reached from a cell. -/
def hasCycleFrom (graph : DependencyGraph) (start : CellId) : Bool :=
  -- Only whether there is one matters.
  (graph.cycleFrom? start).isSome

/-- Some cells, each once and after the cells among them that it reads, directly or not. -/
def dependencyOrder (graph : DependencyGraph) (wanted : List CellId) : List CellId :=
  -- Other cells are passed through and left out.
  (Search.postorder graph.reads.next (room graph.reads) wanted).filter (· ∈ wanted)

/-- A cell has recorded reads or a recorded formula. -/
def contains (graph : DependencyGraph) (id : CellId) : Bool :=
  -- Being read by others does not count.
  !(graph.dependenciesOf id).isEmpty || graph.formulas.contains id

/-- The number of cells that read anything. -/
def size (graph : DependencyGraph) : Nat := graph.reads.sets.size

end DependencyGraph
end Spreadsheet
