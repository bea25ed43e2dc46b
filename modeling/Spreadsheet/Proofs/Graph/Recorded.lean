import Spreadsheet.Proofs.Graph.Links

/-!
Records that are there already: what a graph has to hold of a cell, in both directions, for another
recording of the same to change nothing at all. No more is asked of the rest of the graph.
-/

namespace Spreadsheet

namespace Links

variable {links : Links} {a b x : CellId} {cells : List CellId}

/-- Putting the links of one cell leaves the entries of all others. -/
theorem getElem?_put (links : Links) (a x : CellId) (set : CellSet) :
    (links.put a set).sets[x]? =
      if x = a then (if set = ∅ then none else some set) else links.sets[x]? := by
  -- Only a set that is not empty is kept.
  unfold put
  by_cases same : x = a
  · subst same
    by_cases none : set = ∅
    · simp [none]
    · simp [none, Std.ExtTreeSet.isEmpty_iff]
  · split <;> simp [Std.ExtTreeMap.getElem?_erase, Std.ExtTreeMap.getElem?_insert, Ne.symm same]

/-- Links are determined by their entries. -/
theorem ext_getElem? {other : Links} (same : ∀ x : CellId, links.sets[x]? = other.sets[x]?) :
    links = other := by
  -- The entries are all there is to links.
  obtain ⟨sets⟩ := links
  obtain ⟨sets'⟩ := other
  rw [Links.mk.injEq]
  exact Std.ExtTreeMap.ext_getElem? same

/-- Of two sets that are put as the links of one cell the second one is kept. -/
theorem put_put (links : Links) (a : CellId) (early late : CellSet) :
    (links.put a early).put a late = links.put a late := by
  -- Entry by entry: the second set decides at the cell, and elsewhere nothing was changed.
  refine ext_getElem? fun x => ?_
  simp only [getElem?_put]
  split <;> rfl

/-- The links of two cells can be put in either order. -/
theorem put_comm (links : Links) (apart : a ≠ b) (set other : CellSet) :
    (links.put a set).put b other = (links.put b other).put a set := by
  -- Entry by entry: each cell has its own set, whichever was put first.
  refine ext_getElem? fun x => ?_
  simp only [getElem?_put]
  by_cases first : x = a
  · simp [first, apart]
  · simp [first]

/-- The entries of cells to which no link is added stay. -/
theorem getElem?_addFrom (apart : x ∉ cells) : (links.addFrom cells b).sets[x]? = links.sets[x]? := by
  -- By induction on the cells: each of them changes its own entry alone.
  unfold addFrom
  induction cells generalizing links with
  | nil => rfl
  | cons c rest ih =>
    rw [List.mem_cons, not_or] at apart
    rw [List.foldl_cons, ih apart.2, add, getElem?_put, if_neg apart.1]

/-- The entries of cells from which no link is removed stay. -/
theorem getElem?_removeFrom (apart : x ∉ cells) :
    -- By induction on the cells: each of them changes its own entry alone.
    (links.removeFrom cells b).sets[x]? = links.sets[x]? := by
  unfold removeFrom
  induction cells generalizing links with
  | nil => rfl
  | cons c rest ih =>
    rw [List.mem_cons, not_or] at apart
    rw [List.foldl_cons, ih apart.2, remove, getElem?_put, if_neg apart.1]

/-- A cell that is linked to something has an entry. -/
theorem getElem?_of_mem (member : b ∈ links.of x) : links.sets[x]? = some (links.of x) := by
  -- Without an entry nothing would be linked.
  unfold of at member ⊢
  rw [Std.ExtTreeMap.getD_eq_getD_getElem?] at member ⊢
  cases here : links.sets[x]? with
  | none => simp [here] at member
  | some set => rfl

/-- Links to a cell that are taken away and added again are as they were. -/
theorem addFrom_removeFrom (linked : ∀ x ∈ cells, b ∈ links.of x) :
    (links.removeFrom cells b).addFrom cells b = links := by
  -- Entry by entry: a cell among the others loses its link and gets it back.
  refine ext_getElem? fun x => ?_
  by_cases member : x ∈ cells
  · have again : b ∈ ((links.removeFrom cells b).addFrom cells b).of x :=
      mem_addFrom.mpr (.inr ⟨member, rfl⟩)
    rw [getElem?_of_mem again, getElem?_of_mem (linked x member)]
    -- Only the one link was taken away, and it is there again.
    refine congrArg some (Std.ExtTreeSet.ext_mem fun y => ?_)
    rw [mem_addFrom, mem_removeFrom]
    constructor
    · rintro (⟨there, -⟩ | ⟨-, rfl⟩)
      · exact there
      · exact linked x member
    · intro there
      by_cases added : y = b
      · exact .inr ⟨member, added⟩
      · exact .inl ⟨there, fun removed => added removed.2⟩
  · rw [getElem?_addFrom member, getElem?_removeFrom member]

end Links

namespace DependencyGraph

variable {graph : DependencyGraph} {x y : CellId} {references others : List CellId}
  {text other : String}

/-- What a cell reads is recorded with its text, in both directions and without an empty set. -/
structure Recorded (graph : DependencyGraph) (x : CellId) (references : List CellId)
    (text : String) : Prop where
  reads : graph.reads.put x (Std.ExtTreeSet.ofList references) = graph.reads
  readers : ∀ b ∈ references, x ∈ graph.dependentsOf b
  formula : graph.formulaOf x = some text

/-- What a recorded cell reads is what was recorded. -/
theorem Recorded.dependenciesOf (recorded : graph.Recorded x references text) :
    graph.dependenciesOf x = Std.ExtTreeSet.ofList references := by
  rw [DependencyGraph.dependenciesOf, ← recorded.reads, Links.of_put, if_pos rfl]

/-- What has just been recorded is recorded. -/
theorem recorded_setDependencies (graph : DependencyGraph) (x : CellId) (references : List CellId)
    (text : String) : (graph.setDependencies x references (some text)).Recorded x references text := by
  -- What a cell reads was put last, and it was added to the readers of all that.
  refine ⟨Links.put_put _ _ _ _, fun b member => ?_, by simp⟩
  rw [dependentsOf, setDependencies, Links.mem_addFrom]
  exact .inr ⟨by simpa using member, rfl⟩

/-- What is recorded stays so when another cell is recorded. -/
theorem Recorded.setDependencies (recorded : graph.Recorded x references text) (apart : x ≠ y)
    (others : List CellId) (other : String) :
    (graph.setDependencies y others (some other)).Recorded x references text := by
  refine ⟨?_, fun b member => ?_, ?_⟩
  · -- The two cells read what they read in either order.
    simp only [DependencyGraph.setDependencies, dropReads]
    rw [Links.put_comm _ apart.symm, Links.put_comm _ apart.symm, recorded.reads]
  · -- Only the other cell is taken out of the readers.
    have reader : x ∈ graph.readers.of b := recorded.readers b member
    rw [dependentsOf, DependencyGraph.setDependencies, Links.mem_addFrom, dropReads,
      Links.mem_removeFrom]
    exact .inl ⟨reader, fun removed => apart removed.2⟩
  · rw [formulaOf_setDependencies, if_neg apart, recorded.formula]

/-- Recording what is recorded changes nothing. -/
theorem Recorded.setDependencies_eq (recorded : graph.Recorded x references text) :
    graph.setDependencies x references (some text) = graph := by
  -- Each of the three tables stays as it is: what is put is there already.
  have reads : graph.reads.next x = (Std.ExtTreeSet.ofList references).toList :=
    congrArg Std.ExtTreeSet.toList recorded.dependenciesOf
  have linked : ∀ b ∈ (Std.ExtTreeSet.ofList references).toList, x ∈ graph.readers.of b :=
    fun b member => recorded.readers b (by simpa using member)
  have formulas : graph.formulas.insert x text = graph.formulas := by
    refine Std.ExtTreeMap.ext_getElem? fun y => ?_
    rw [Std.ExtTreeMap.getElem?_insert]
    split
    · rename_i same
      rw [← Std.LawfulEqCmp.compare_eq_iff_eq.mp same]
      exact recorded.formula.symm
    · rfl
  -- The readers lose the cell and get it back, and the other two are put as they are.
  rw [DependencyGraph.setDependencies, dropReads]
  dsimp only
  rw [Links.put_put, recorded.reads, reads, Links.addFrom_removeFrom linked, formulas]

end DependencyGraph
end Spreadsheet
