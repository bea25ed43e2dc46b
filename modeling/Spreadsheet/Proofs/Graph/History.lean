import Mathlib.Data.List.Induction
import Spreadsheet.Proofs.Graph.Links

/-!
What any sequence of changes leaves of the dependency graph: its two directions are each other's
transpose, no cell is kept with an empty set, and each cell reads what was recorded last.
-/

namespace Spreadsheet.DependencyGraph

/-- A change of the dependency graph. -/
inductive Change where
  /-- What a cell reads is recorded, with its formula if one is given. -/
  | set (id : CellId) (references : List CellId) (formula : Option String)
  /-- A cell is removed. -/
  | remove (id : CellId)
  /-- Everything is forgotten. -/
  | clear

/-- The graph after a change. -/
def Change.apply (graph : DependencyGraph) : Change → DependencyGraph
  -- A cleared graph is as good as a new one.
  | set id references formula => graph.setDependencies id references formula
  | remove id => graph.remove id
  | clear => empty

/-- The graph that some changes make, from the first to the last. -/
def ofChanges (changes : List Change) : DependencyGraph :=
  -- Nothing is recorded before the first one.
  changes.foldl Change.apply empty

/-- What a change says of the cells that a cell reads, nothing if it concerns other cells only. -/
def Change.readsOf? (a : CellId) : Change → Option CellSet
  -- A removed cell reads nothing, and in a cleared graph no cell does.
  | set id references _ => if a = id then some (Std.ExtTreeSet.ofList references) else none
  | remove id => if a = id then some ∅ else none
  | clear => some ∅

/-- The cells that a cell reads by the last change that says so. -/
def lastReads (changes : List Change) (a : CellId) : CellSet :=
  -- Before any change a cell reads nothing.
  (changes.reverse.findSome? (Change.readsOf? a)).getD ∅

variable {graph : DependencyGraph} {changes : List Change}

/-- One more change is made after the others. -/
theorem ofChanges_append (changes : List Change) (change : Change) :
    ofChanges (changes ++ [change]) = change.apply (ofChanges changes) :=
  List.foldl_append

/-- The last change decides if it concerns the cell. -/
theorem lastReads_append (changes : List Change) (change : Change) (a : CellId) :
    lastReads (changes ++ [change]) a = (change.readsOf? a).getD (lastReads changes a) := by
  rw [lastReads, List.reverse_append, List.reverse_singleton, List.singleton_append,
    List.findSome?_cons]
  -- The last change is looked at first.
  cases change.readsOf? a <;> rfl

/-- A change leaves a cell with what it says the cell reads, or with what the cell read before. -/
theorem dependenciesOf_apply (graph : DependencyGraph) (change : Change) (a : CellId) :
    (change.apply graph).dependenciesOf a = (change.readsOf? a).getD (graph.dependenciesOf a) := by
  -- A change concerns its own cell, and clearing concerns all of them.
  cases change with
  | set id references formula =>
    rw [Change.apply, dependenciesOf_setDependencies, Change.readsOf?]
    split <;> rfl
  | remove id =>
    rw [Change.apply, dependenciesOf_remove, Change.readsOf?]
    split <;> rfl
  | clear => exact dependenciesOf_empty a

/-- The two directions of a graph are each other's transpose, and neither keeps an empty set. -/
structure Sound (graph : DependencyGraph) : Prop where
  transposed : graph.Transposed
  reads : graph.reads.Filled
  readers : graph.readers.Filled

/-- The empty graph is sound. -/
theorem sound_empty : empty.Sound :=
  ⟨transposed_empty, Links.filled_empty, Links.filled_empty⟩

/-- Every change keeps a graph sound. -/
theorem Sound.apply (sound : graph.Sound) (change : Change) : (change.apply graph).Sound := by
  obtain ⟨transposed, reads, readers⟩ := sound
  -- Putting, adding and removing links each keep no empty set.
  cases change with
  | set id references formula =>
    exact ⟨transposed.setDependencies id references formula, (reads.put id _).put id _,
      (readers.removeFrom _ id).addFrom _ id⟩
  | remove id => exact ⟨transposed.remove id, reads.put id _, readers.removeFrom _ id⟩
  | clear => exact sound_empty

/-- Whatever the changes are, the graph that they make is sound. -/
theorem sound_ofChanges (changes : List Change) : (ofChanges changes).Sound := by
  -- The induction takes the last change off, as the graph is made from the first one on.
  induction changes using List.reverseRecOn with
  | nil => exact sound_empty
  | append_singleton changes change ih =>
    rw [ofChanges_append]
    exact ih.apply change

/-- Each cell reads what the last change that concerns it says. -/
theorem dependenciesOf_ofChanges (changes : List Change) (a : CellId) :
    (ofChanges changes).dependenciesOf a = lastReads changes a := by
  -- The induction takes the last change off, which decides if it concerns the cell.
  induction changes using List.reverseRecOn with
  | nil => exact dependenciesOf_empty a
  | append_singleton changes change ih =>
    rw [ofChanges_append, dependenciesOf_apply, lastReads_append, ih]

/--
After any changes a cell reads another one exactly if it is recorded among that one's readers, no cell
is kept with an empty set in either direction, and each cell reads exactly what was last recorded for
it and not undone since.
-/
theorem ofChanges_exact (changes : List Change) :
    (∀ a b, b ∈ (ofChanges changes).dependenciesOf a ↔ a ∈ (ofChanges changes).dependentsOf b) ∧
    (∀ (a : CellId) (set : CellSet), (ofChanges changes).reads.sets[a]? = some set → set ≠ ∅) ∧
    (∀ (b : CellId) (set : CellSet), (ofChanges changes).readers.sets[b]? = some set → set ≠ ∅) ∧
    ∀ a, (ofChanges changes).dependenciesOf a = lastReads changes a := by
  obtain ⟨transposed, reads, readers⟩ := sound_ofChanges changes
  exact ⟨fun a b => (transposed a b).symm, reads, readers, dependenciesOf_ofChanges changes⟩

/-- A cell that reads itself is recorded anew, and then another one is removed. -/
example : lastReads [.set "A1" ["A1", "B1"] none, .set "A1" ["B1"] none, .remove "C1"] "A1" =
    Std.ExtTreeSet.ofList ["B1"] := rfl

end Spreadsheet.DependencyGraph
