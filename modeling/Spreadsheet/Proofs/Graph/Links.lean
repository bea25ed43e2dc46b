import Spreadsheet.Graph
import Spreadsheet.Proofs.Graph.Search

/-!
What the operations on links and on the dependency graph do to the links of each cell. The two
directions of the graph stay each other's transpose, so its closure under readers is exact.
-/

namespace Spreadsheet

open Relation

namespace Links

variable {links : Links} {a b x y : CellId} {cells : List CellId}

/-- Without links no cell is linked to anything. -/
@[simp] theorem of_empty (x : CellId) : Links.empty.of x = ∅ := by
  -- Nothing is kept in the empty map.
  simp [of, empty]

/-- Putting the links of one cell leaves those of all others. -/
@[simp] theorem of_put (links : Links) (a x : CellId) (set : CellSet) :
    (links.put a set).of x = if x = a then set else links.of x := by
  -- An empty set is what a cell without an entry is linked to.
  unfold put of
  by_cases same : x = a
  · subst same
    split
    · rename_i empty
      simp [Std.ExtTreeSet.isEmpty_iff.mp empty]
    · simp
  · split <;> simp [Std.ExtTreeMap.getD_erase, Std.ExtTreeMap.getD_insert, Ne.symm same]

/-- Adding a link from each of some cells adds exactly those links. -/
theorem mem_addFrom : y ∈ (links.addFrom cells b).of x ↔ y ∈ links.of x ∨ x ∈ cells ∧ y = b := by
  -- Cell by cell, one link more.
  unfold addFrom
  induction cells generalizing links with
  | nil => simp
  | cons c rest ih =>
    rw [List.foldl_cons, ih, add, of_put]
    by_cases same : x = c
    · subst same
      simp only [if_true, Std.ExtTreeSet.mem_insert, Std.LawfulEqCmp.compare_eq_iff_eq,
        List.mem_cons, true_or, true_and]
      tauto
    · simp [same]

/-- Removing the link from each of some cells removes exactly those links. -/
theorem mem_removeFrom :
    y ∈ (links.removeFrom cells b).of x ↔ y ∈ links.of x ∧ ¬(x ∈ cells ∧ y = b) := by
  -- Cell by cell, one link less.
  unfold removeFrom
  induction cells generalizing links with
  | nil => simp
  | cons c rest ih =>
    rw [List.foldl_cons, ih, remove, of_put]
    by_cases same : x = c
    · subst same
      simp only [if_true, Std.ExtTreeSet.mem_erase, ne_eq, Std.LawfulEqCmp.compare_eq_iff_eq,
        List.mem_cons, true_or, true_and]
      tauto
    · simp [same]

/-- The cells that follow a cell are those it is linked to. -/
@[simp] theorem mem_next : y ∈ links.next x ↔ y ∈ links.of x := by
  -- The list of what follows is that of the set.
  simp [next]

/-- One step more than there are cells with links is room enough for any search. -/
theorem roomy (links : Links) : Search.Roomy links.next (links.sets.size + 1) ∅ := by
  -- The cells that anything follows are among the keys.
  refine ⟨links.sets.keys.toFinset, fun x followed => ?_, ?_⟩
  · rw [List.mem_toFinset, Std.ExtTreeMap.mem_keys]
    by_contra absent
    refine followed ?_
    simp [next, of, Std.ExtTreeMap.getD_eq_fallback absent]
  · refine Nat.lt_succ_of_le ((Finset.card_filter_le _ _).trans ?_)
    exact (List.toFinset_card_le _).trans (by simp)

/-- No cell is kept with an empty set of links. -/
def Filled (links : Links) : Prop :=
  ∀ (a : CellId) (set : CellSet), links.sets[a]? = some set → set ≠ ∅

/-- Without links no set is kept. -/
theorem filled_empty : empty.Filled := by
  intro a set kept
  simp [empty] at kept

/-- Putting the links of a cell keeps no empty set. -/
theorem Filled.put (filled : links.Filled) (a : CellId) (set : CellSet) : (links.put a set).Filled := by
  intro x own kept
  unfold Links.put at kept
  -- An empty set is not put, and the sets of other cells are those from before.
  by_cases same : a = x
  · subst same
    split at kept
    · simp at kept
    · rename_i nonempty
      obtain rfl : set = own := by simpa using kept
      exact fun none => nonempty (Std.ExtTreeSet.isEmpty_iff.mpr none)
  · split at kept
    · exact filled x own (by simpa [Std.ExtTreeMap.getElem?_erase, same] using kept)
    · exact filled x own (by simpa [Std.ExtTreeMap.getElem?_insert, same] using kept)

/-- Adding links keeps no empty set. -/
theorem Filled.addFrom (filled : links.Filled) (cells : List CellId) (b : CellId) :
    (links.addFrom cells b).Filled := by
  unfold Links.addFrom
  -- The links are added cell by cell.
  induction cells generalizing links with
  | nil => exact filled
  | cons c rest ih => exact ih (filled.put c _)

/-- Removing links keeps no empty set. -/
theorem Filled.removeFrom (filled : links.Filled) (cells : List CellId) (b : CellId) :
    (links.removeFrom cells b).Filled := by
  unfold Links.removeFrom
  -- The links are removed cell by cell.
  induction cells generalizing links with
  | nil => exact filled
  | cons c rest ih => exact ih (filled.put c _)

end Links

namespace DependencyGraph

variable {graph : DependencyGraph} {id x : CellId}

/-- A cell reads another one. -/
def Reads (graph : DependencyGraph) (a b : CellId) : Prop := b ∈ graph.dependenciesOf a

/-- Nothing is recorded in the empty graph. -/
@[simp] theorem dependenciesOf_empty (x : CellId) : empty.dependenciesOf x = ∅ := by
  simp [dependenciesOf, empty]

/-- No formula is recorded in the empty graph. -/
@[simp] theorem formulaOf_empty (x : CellId) : empty.formulaOf x = none := by
  simp [formulaOf, empty]

/-- Recording what a cell reads replaces what it read before, and leaves all other cells. -/
@[simp] theorem dependenciesOf_setDependencies (graph : DependencyGraph) (id x : CellId)
    (references : List CellId) (formula : Option String) :
    (graph.setDependencies id references formula).dependenciesOf x =
      if x = id then Std.ExtTreeSet.ofList references else graph.dependenciesOf x := by
  simp only [dependenciesOf, setDependencies, dropReads, Links.of_put]
  -- The links that were dropped are those of the cell that is recorded.
  split <;> rfl

/-- Recording a formula replaces the one before, and leaves those of all other cells. -/
@[simp] theorem formulaOf_setDependencies (graph : DependencyGraph) (id x : CellId)
    (references : List CellId) (text : String) :
    (graph.setDependencies id references (some text)).formulaOf x =
      if x = id then some text else graph.formulaOf x := by
  -- The formula is kept in a map of its own.
  by_cases same : x = id
  · simp [formulaOf, setDependencies, dropReads, same]
  · simp [formulaOf, setDependencies, dropReads, same, Std.ExtTreeMap.getElem?_insert, Ne.symm same]

/-- A cell that is removed reads nothing any more, and all others read what they did. -/
@[simp] theorem dependenciesOf_remove (graph : DependencyGraph) (id x : CellId) :
    (graph.remove id).dependenciesOf x = if x = id then ∅ else graph.dependenciesOf x := by
  simp [dependenciesOf, remove, dropReads]

/-- A cell that is removed has no formula any more, and all others keep theirs. -/
@[simp] theorem formulaOf_remove (graph : DependencyGraph) (id x : CellId) :
    (graph.remove id).formulaOf x = if x = id then none else graph.formulaOf x := by
  -- The formula is erased from its map.
  by_cases same : x = id
  · simp [formulaOf, remove, dropReads, same]
  · simp [formulaOf, remove, dropReads, same, Std.ExtTreeMap.getElem?_erase, Ne.symm same]

/-- The cells that read each cell are recorded as exactly those that read it. -/
def Transposed (graph : DependencyGraph) : Prop :=
  -- Each direction has the links of the other one.
  ∀ a b, a ∈ graph.dependentsOf b ↔ graph.Reads a b

/-- The empty graph is transposed. -/
theorem transposed_empty : empty.Transposed := by
  -- Neither map has an entry.
  simp [Transposed, Reads, dependentsOf, dependenciesOf, empty]

/-- Dropping what a cell reads takes the cell out of all readers. -/
theorem mem_dependentsOf_dropReads (kept : graph.Transposed) (id a b : CellId) :
    a ∈ (graph.dropReads id).dependentsOf b ↔ graph.Reads a b ∧ a ≠ id := by
  rw [dependentsOf, dropReads, Links.mem_removeFrom, Links.mem_next]
  -- The links that are removed are those of the cell itself.
  have before := kept a b
  rw [dependentsOf] at before
  rw [before]
  constructor
  · rintro ⟨reads, kept⟩
    exact ⟨reads, fun same => kept ⟨same ▸ reads, same⟩⟩
  · rintro ⟨reads, other⟩
    exact ⟨reads, fun removed => other removed.2⟩

/-- Recording what a cell reads keeps the graph transposed. -/
theorem Transposed.setDependencies (kept : graph.Transposed) (id : CellId)
    (references : List CellId) (formula : Option String) :
    (graph.setDependencies id references formula).Transposed := by
  intro a b
  -- The links of the cell are dropped first, then the new ones are added.
  have dropped := mem_dependentsOf_dropReads kept id a b
  rw [dependentsOf] at dropped
  simp only [dependentsOf, DependencyGraph.setDependencies, Links.mem_addFrom, dropped]
  change _ ↔ b ∈ (graph.setDependencies id references formula).dependenciesOf a
  rw [dependenciesOf_setDependencies]
  by_cases same : a = id
  · simp [same]
  · simp [same, Reads]

/-- Removing a cell keeps the graph transposed. -/
theorem Transposed.remove (kept : graph.Transposed) (id : CellId) :
    (graph.remove id).Transposed := by
  intro a b
  change a ∈ (graph.dropReads id).dependentsOf b ↔ b ∈ (graph.remove id).dependenciesOf a
  rw [mem_dependentsOf_dropReads kept, dependenciesOf_remove]
  -- The cell itself reads nothing, and for the others nothing changes.
  by_cases same : a = id
  · simp [same]
  · simp [same, Reads]

/-- What leads to a cell along readers is what the cell leads to along reads. -/
theorem Transposed.leads_readers (kept : graph.Transposed) :
    Search.Leads graph.readers.next = Function.swap graph.Reads := by
  funext a b
  -- The readers of a cell are listed as those that read it.
  rw [Search.Leads, Links.mem_next]
  exact propext (kept b a)

/-- The cells that directly or indirectly read one of some cells are those from which one is reached. -/
theorem Transposed.mem_transitiveDependents (kept : graph.Transposed) {changed : List CellId} :
    x ∈ graph.transitiveDependents changed ↔ ∃ c ∈ changed, TransGen graph.Reads x c := by
  -- The search walks the links backwards, from the readers of the cells on.
  have enough : Search.Roomy graph.readers.next (room graph.readers) ∅ := graph.readers.roomy
  rw [transitiveDependents, Std.ExtTreeSet.mem_ofList, List.contains_iff_mem,
    Search.mem_postorder enough, kept.leads_readers]
  simp only [List.mem_flatMap, Links.mem_next, reflTransGen_swap]
  -- The search sets out from the direct readers, so the last step is told apart.
  constructor
  · rintro ⟨reader, ⟨c, member, reads⟩, way⟩
    exact ⟨c, member, .tail' way ((kept reader c).mp reads)⟩
  · rintro ⟨c, member, reached⟩
    obtain ⟨reader, way, reads⟩ := TransGen.tail'_iff.mp reached
    exact ⟨reader, ⟨c, member, (kept reader c).mpr reads⟩, way⟩

/-- The cells that directly or indirectly read a cell are those from which it is reached. -/
theorem mem_transitiveDependents (kept : graph.Transposed) :
    x ∈ graph.transitiveDependents [id] ↔ TransGen graph.Reads x id := by
  simp [kept.mem_transitiveDependents]

/-- What follows a cell in the graph is what it reads. -/
theorem leads_next (graph : DependencyGraph) : Search.Leads graph.reads.next = graph.Reads := by
  funext a b
  exact propext Links.mem_next

/-- A cycle that is found behind a cell is a cycle of reads, and the cell leads to it. -/
theorem cycleFrom?_eq_some {cycle : List CellId} (found : graph.cycleFrom? id = some cycle) :
    IsCycle graph.Reads cycle ∧ ∃ x, cycle.head? = some x ∧ ReflTransGen graph.Reads id x :=
  graph.leads_next ▸ Search.cycle?_eq_some found

/-- Where no cycle is found, every chain of reads ends. -/
theorem terminates_of_cycleFrom?_eq_none (none : graph.cycleFrom? id = none) :
    Terminates graph.Reads id :=
  graph.leads_next ▸ Search.terminates_of_cycle?_eq_none graph.reads.roomy none

end DependencyGraph
end Spreadsheet
