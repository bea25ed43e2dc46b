import Spreadsheet.Proofs.Graph.Links
import Spreadsheet.Proofs.Graph.Walk

/-!
The search for a cycle in the dependency graph, in whatever order the cells that a cell reads are gone
through: it ends, it finds a cycle exactly if there is one, and what it finds is one.
-/

namespace Spreadsheet

open Relation

namespace DependencyGraph

variable {graph : DependencyGraph} {start : CellId} {path : List CellId}

/-- An order in which the cells that each cell reads are gone through. -/
structure Iteration (graph : DependencyGraph) where
  next : CellId → List CellId
  lists : ∀ x y, y ∈ next x ↔ graph.Reads x y

namespace Iteration

/-- Cells are gone through in the order of their ids. -/
def byId (graph : DependencyGraph) : graph.Iteration :=
  ⟨graph.reads.next, fun _ _ => Links.mem_next⟩

/-- A cycle that can be reached from a cell, as it is found in this order. -/
def cycle? (order : graph.Iteration) (start : CellId) : Option (List CellId) :=
  -- The room depends on the graph only.
  Search.cycle? order.next (room graph.reads) start

/-- What follows a cell in any order is what it reads. -/
theorem leads (order : graph.Iteration) : Search.Leads order.next = graph.Reads := by
  -- What is listed behind a cell are the cells that it reads.
  funext x y
  exact propext (order.lists x y)

/-- In any order there is room enough to search the graph. -/
theorem roomy (order : graph.Iteration) : Search.Roomy order.next (room graph.reads) ∅ := by
  obtain ⟨linked, covers, fits⟩ := graph.reads.roomy
  refine ⟨linked, fun x followed => covers x fun none => ?_, fits⟩
  -- A cell that is followed by others reads them.
  obtain ⟨y, member⟩ := List.exists_mem_of_ne_nil _ followed
  have reads := Links.mem_next.mpr ((order.lists x y).mp member)
  simp [none] at reads

/-- A cycle is found exactly if there is one behind the cell. -/
theorem cycle?_eq_none_iff (order : graph.Iteration) :
    order.cycle? start = none ↔ ¬ CycleBehind graph.Reads start := by
  constructor
  · intro none
    have ends := Search.terminates_of_cycle?_eq_none order.roomy none
    exact (order.leads ▸ ends).no_cycle
  · intro acyclic
    -- What would be found is a cycle behind the cell.
    refine Option.eq_none_iff_forall_ne_some.mpr fun path found => acyclic ?_
    obtain ⟨cycle, x, first, reached⟩ := order.leads ▸ Search.cycle?_eq_some found
    obtain ⟨y, head, around⟩ := cycle.around
    obtain rfl : x = y := Option.some.inj (first.symm.trans head)
    exact ⟨x, reached, around⟩

end Iteration

/-- In the order of ids too a cycle is found exactly if there is one behind the cell. -/
theorem cycleFrom?_eq_none_iff : graph.cycleFrom? start = none ↔ ¬ CycleBehind graph.Reads start :=
  -- The order of the ids is one of all orders.
  (Iteration.byId graph).cycle?_eq_none_iff

/--
The search for a cycle. In whatever order the cells that each cell reads are gone through, the search
ends, and it finds nothing exactly if no cycle can be reached. What it finds has at least two cells,
the first of which is the last one and all others of which are distinct; each of them reads the next
one, and all of them can be reached from the start.
-/
theorem cycle?_exact (order : graph.Iteration) (start : CellId) :
    Search.Walk.Seeks order.next (.start [start]) (order.cycle? start) ∧
    (order.cycle? start = none ↔ ¬ CycleBehind graph.Reads start) ∧
    (∀ path, order.cycle? start = some path →
      2 ≤ path.length ∧ path.head? = path.getLast? ∧ path.dropLast.Nodup ∧
      path.IsChain graph.Reads ∧ ∀ x ∈ path, ReflTransGen graph.Reads start x) ∧
    (graph.hasCycleFrom start = true ↔ CycleBehind graph.Reads start) := by
  refine ⟨Search.Walk.seeks_start order.roomy start, order.cycle?_eq_none_iff, ?_, ?_⟩
  · -- What is found begins and ends with one cell, by the shape of a cycle.
    intro path found
    obtain ⟨⟨linked, x, inner, rfl⟩, y, first, reached⟩ :=
      order.leads ▸ Search.cycle?_eq_some found
    obtain rfl : x = y := Option.some.inj first
    refine ⟨by simp, List.getLast?_concat.symm, Search.cycle?_nodup found, linked,
      fun z member => ?_⟩
    exact reached.trans (reaches_of_mem_isChain linked member)
  · -- Whether there is a cycle is whether one is found in the order of ids.
    have none : graph.cycleFrom? start = none ↔ _ := (Iteration.byId graph).cycle?_eq_none_iff
    rw [hasCycleFrom, Option.isSome_iff_ne_none, Ne, none, not_not]

/-- From a cell outside a cycle the search finds the cycle without that cell. -/
example : ((((empty.setDependencies "A1" ["B1"] none).setDependencies "B1" ["A1"] none).setDependencies
    "C1" ["A1"] none).cycleFrom? "C1") = some ["A1", "B1", "A1"] := by decide

end DependencyGraph
end Spreadsheet
