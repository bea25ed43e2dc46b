import Spreadsheet.Proofs.Graph.Links
import Spreadsheet.Proofs.Graph.Walk

/-!
The order in which a search leaves cells: where no cycle is reached, each cell comes after everything
that it leads to. So some cells of a dependency graph are put in the order of what they read.
-/

namespace Spreadsheet

open Relation

/-- A cell comes before another one in an order. -/
def Precedes (order : List CellId) (a b : CellId) : Prop :=
  -- Neither cell needs to be there only once.
  ∃ early late, order = early ++ b :: late ∧ a ∈ early

/-- A cell still comes before another one if other cells are left out. -/
theorem Precedes.filter {order : List CellId} {a b : CellId} {kept : CellId → Bool}
    (before : Precedes order a b) (first : kept a = true) (second : kept b = true) :
    Precedes (order.filter kept) a b := by
  obtain ⟨early, late, rfl, member⟩ := before
  refine ⟨early.filter kept, late.filter kept, ?_, List.mem_filter.mpr ⟨member, first⟩⟩
  -- Leaving cells out keeps the two parts in their order.
  rw [List.filter_append, List.filter_cons_of_pos second]

/-- Where no cell comes twice, what comes before a cell is what the order lists up to it. -/
theorem Precedes.mem_early {early late : List CellId} {a b : CellId}
    (before : Precedes (early ++ b :: late) a b) (distinct : (early ++ b :: late).Nodup) :
    a ∈ early := by
  obtain ⟨early', late', split, member⟩ := before
  have alone := List.nodup_middle.mp distinct
  rw [List.nodup_cons, List.mem_append, not_or] at alone
  -- The cell divides the order in one way only.
  rw [List.append_cons_inj_of_notMem alone.1.1 alone.1.2] at split
  exact split.1 ▸ member

/-- Where no cell comes twice, of two cells only one comes before the other. -/
theorem Precedes.asymm {order : List CellId} {a b : CellId} (before : Precedes order a b)
    (distinct : order.Nodup) : ¬ Precedes order b a := by
  intro behind
  obtain ⟨early, late, rfl, member⟩ := before
  have alone := (List.nodup_cons.mp (List.nodup_middle.mp distinct)).1
  -- The other cell stands in the part in front.
  obtain ⟨start, middle, rfl⟩ := List.append_of_mem member
  rw [List.append_assoc, List.cons_append] at behind distinct
  -- The second cell would come twice, before the first one as well.
  have again := behind.mem_early distinct
  exact alone (by simp [again])

/-- A cell that comes before another one does so wherever the order breaks off behind that one. -/
theorem Precedes.of_isPrefix {part order : List CellId} {a b : CellId} (before : Precedes order a b)
    (distinct : order.Nodup) (breaks : part <+: order) (member : b ∈ part) : Precedes part a b := by
  obtain ⟨early, late, rfl⟩ := List.append_of_mem member
  obtain ⟨rest, rfl⟩ := breaks
  rw [List.append_assoc, List.cons_append] at before distinct
  exact ⟨early, late, rfl, before.mem_early distinct⟩

/-- What an order lists up to somewhere comes before what it lists only from there on. -/
theorem Precedes.of_mem_isPrefix {part order : List CellId} {a b : CellId} (breaks : part <+: order)
    (first : a ∈ part) (second : b ∈ order) (later : b ∉ part) : Precedes order a b := by
  obtain ⟨rest, rfl⟩ := breaks
  -- What is listed first is a part in front of the whole order.
  obtain ⟨early, late, rfl⟩ := List.append_of_mem ((List.mem_append.mp second).resolve_left later)
  exact ⟨part ++ early, late, (List.append_assoc _ _ _).symm, List.mem_append_left _ first⟩

namespace Search

variable {next : CellId → List CellId} {room : Nat} {path roots left : List CellId} {trail : Trail}
  {id a b : CellId}

/-- Each cell was left after everything that follows it. -/
def Ordered (next : CellId → List CellId) (left : List CellId) : Prop :=
  -- The last cell that was left comes first.
  ∀ late x early, left = late ++ x :: early → ∀ y ∈ next x, y ∈ early

/-- Leaving a cell keeps the order if everything that follows the cell was left before. -/
theorem Ordered.cons (ordered : Ordered next left) (follows : ∀ y ∈ next id, y ∈ left) :
    Ordered next (id :: left) := by
  intro late x early split y member
  -- Either the new cell is the one in question, or one of those that were left before.
  cases late with
  | nil =>
    obtain ⟨rfl, rfl⟩ := List.cons.inj split
    exact follows y member
  | cons z late => exact ordered late x early (List.cons.inj split).2 y member

/-- Whatever a cell leads to was left before the cell. -/
theorem Ordered.precedes (ordered : Ordered next left) (member : a ∈ left)
    (way : TransGen (Leads next) a b) : Precedes left.reverse b a := by
  obtain ⟨late, early, rfl⟩ := List.append_of_mem member
  refine ⟨early.reverse, late.reverse, by simp, List.mem_reverse.mpr ?_⟩
  -- The induction is along the way, all of which was left before the cell.
  induction way with
  | single step => exact ordered late a early rfl _ step
  | tail _ step ih =>
    obtain ⟨middle, rest, rfl⟩ := List.append_of_mem ih
    have later := ordered (late ++ a :: middle) _ rest (by simp) _ step
    exact List.mem_append_right _ (List.mem_cons_of_mem _ later)

/-- Each cell that was seen was left in its order, or is one of a path. -/
structure Settles (next : CellId → List CellId) (path : List CellId) (trail : Trail) : Prop where
  covered : ∀ x ∈ trail.seen, x ∈ trail.left ∨ x ∈ path
  ordered : Ordered next trail.left

/-- A cell that is entered belongs to the path of the search. -/
theorem Settles.enter (settles : Settles next path trail) (id : CellId) :
    Settles next (id :: path) { trail with seen := trail.seen.insert id } := by
  -- What was seen before is covered, and the new cell is on the path.
  refine ⟨fun x seen => ?_, settles.ordered⟩
  rcases Std.ExtTreeSet.mem_insert.mp seen with same | old
  · exact .inr (List.mem_cons.mpr (.inl (Std.LawfulEqCmp.eq_of_compare same).symm))
  · exact (settles.covered x old).imp_right (List.mem_cons_of_mem _)

/-- A cell that is left after everything that follows it belongs to the path no more. -/
theorem Settles.leave (settles : Settles next (id :: path) trail)
    (follows : ∀ y ∈ next id, y ∈ trail.left) :
    Settles next path { trail with left := id :: trail.left } := by
  refine ⟨fun x seen => ?_, settles.ordered.cons follows⟩
  rcases settles.covered x seen with left | member
  · -- A cell of the path is the one that is left, or stays on the path.
    exact .inl (List.mem_cons_of_mem _ left)
  · rcases List.mem_cons.mp member with same | member
    · exact .inl (List.mem_cons.mpr (.inl same))
    · exact .inr member

/-- If each visit settles the trail, so do visits one after the other. -/
theorem Settles.foldl (settles : Settles next path trail)
    (enough : roots ≠ [] → Roomy next room trail.seen)
    (each : ∀ trail, ∀ id ∈ roots, Roomy next room trail.seen → Settles next path trail →
      Settles next path (visit next room trail id)) :
    Settles next path (roots.foldl (visit next room) trail) := by
  -- The induction is along the roots; the room that is needed shrinks with what is unseen.
  induction roots generalizing trail with
  | nil => exact settles
  | cons id rest ih =>
    have fits := enough (List.cons_ne_nil _ _)
    refine ih (each trail id (by simp) fits settles) (fun _ => ?_) fun trail x member =>
      each trail x (List.mem_cons_of_mem _ member)
    exact fits.mono (visit_extends next room trail id).grows

/-- Without a cycle behind a cell, its visit leaves every cell after what follows it. -/
theorem visit_settles (enough : Roomy next room trail.seen) (settles : Settles next path trail)
    (leads : ∀ x ∈ path, TransGen (Leads next) x id) (acyclic : ¬ CycleBehind (Leads next) id) :
    Settles next path (visit next room trail id) := by
  -- The induction is on the room, which every visit inside has one less of.
  induction room generalizing trail path id with
  | zero => exact settles
  | succ room ih =>
    rw [visit]
    split
    · exact settles
    · rename_i unseen
      have fits : next id ≠ [] → Roomy next room (trail.seen.insert id) := enough.enter unseen
      -- Everything on the path leads to what follows the cell.
      have deeper : ∀ child ∈ next id, ∀ x ∈ id :: path, TransGen (Leads next) x child := by
        intro child step x member
        rcases List.mem_cons.mp member with same | member
        · exact same ▸ .single step
        · exact (leads x member).tail step
      have inside : Settles next (id :: path)
          ((next id).foldl (visit next room) { trail with seen := trail.seen.insert id }) := by
        -- Inside the visit the children are visited, each with a longer path.
        refine (settles.enter id).foldl fits fun trail child step fits settles => ?_
        refine ih fits settles (deeper child step) ?_
        rintro ⟨x, way, around⟩
        exact acyclic ⟨x, .head step way, around⟩
      refine inside.leave fun child step => ?_
      -- A cell that follows was seen, and on the path it would close a cycle.
      have seen := (foldl_complete (visit_extends next room) visit_complete (next id)
        { trail with seen := trail.seen.insert id } (fits (List.ne_nil_of_mem step))).1 child step
      refine (inside.covered child seen).resolve_right fun member => acyclic ?_
      exact ⟨child, .single step, deeper child step child member⟩

/-- Where no cycle is reached, a postorder lists each cell after everything that it leads to. -/
theorem precedes_postorder (enough : Roomy next room ∅)
    (acyclic : ∀ root ∈ roots, ¬ CycleBehind (Leads next) root)
    (member : a ∈ postorder next room roots) (way : TransGen (Leads next) a b) :
    Precedes (postorder next room roots) b a := by
  -- At the outset nothing was seen and nothing was left.
  have begun : Settles next [] ⟨∅, []⟩ :=
    ⟨fun x seen => absurd seen (by simp), fun late x early split => by simp at split⟩
  have settled : Settles next [] (roots.foldl (visit next room) ⟨∅, []⟩) := by
    refine begun.foldl (fun _ => enough) fun trail root among fits settles => ?_
    exact visit_settles fits settles (by simp) (acyclic root among)
  exact settled.ordered.precedes (List.mem_reverse.mp member) way

/-- A cell from which a search sets out comes before each one that is only met later on. -/
theorem precedes_postorder_of_unmet {early late : List CellId} (first : a ∈ early) (second : b ∈ late)
    (unmet : ∀ root ∈ early, ¬ ReflTransGen (Leads next) root b) :
    Precedes (postorder next (room + 1) (early ++ late)) a b := by
  refine .of_mem_isPrefix (postorder_isPrefix next (room + 1) early late) (mem_postorder_of_mem first)
    (mem_postorder_of_mem (List.mem_append_right _ second)) fun met => ?_
  -- What was met was reached from one of the first roots.
  obtain ⟨root, member, way⟩ := reached_of_mem_postorder met
  exact unmet root member way

/-- Where no cycle is reached, each of some wanted cells comes after those of them that it leads to. -/
theorem precedes_wanted {wanted : List CellId} (enough : Roomy next (room + 1) ∅)
    (acyclic : ∀ u ∈ wanted, ¬ CycleBehind (Leads next) u) (first : a ∈ wanted) (second : b ∈ wanted)
    (way : TransGen (Leads next) a b) :
    Precedes ((postorder next (room + 1) wanted).filter (· ∈ wanted)) b a :=
  -- Both cells are wanted, so they are not left out.
  (precedes_postorder enough acyclic (mem_postorder_of_mem first) way).filter
    (decide_eq_true second) (decide_eq_true first)

/-- What is left out of a postorder are the cells that are not wanted. -/
theorem mem_wanted {wanted : List CellId} :
    a ∈ (postorder next (room + 1) wanted).filter (· ∈ wanted) ↔ a ∈ wanted := by
  rw [List.mem_filter, decide_eq_true_eq]
  exact ⟨And.right, fun member => ⟨mem_postorder_of_mem member, member⟩⟩

end Search

namespace DependencyGraph

variable {graph : DependencyGraph} {wanted : List CellId} {x : CellId}

/-- Some cells in the order of what they read are still those cells. -/
theorem mem_dependencyOrder : x ∈ graph.dependencyOrder wanted ↔ x ∈ wanted := Search.mem_wanted

/-- Where no cycle is reached, a cell comes after each of the others that it reads. -/
theorem precedes_dependencyOrder {u v : CellId} (acyclic : ∀ u ∈ wanted, ¬ CycleBehind graph.Reads u)
    (first : u ∈ wanted) (second : v ∈ wanted) (way : TransGen graph.Reads u v) :
    Precedes (graph.dependencyOrder wanted) v u :=
  Search.precedes_wanted graph.reads.roomy (graph.leads_next ▸ acyclic) first second
    (graph.leads_next ▸ way)

/--
Some cells in the order of what they read. The search for that order ends, and gives each of the cells
exactly once and no others. If no cycle can be reached from them, each of them comes after all those
among them that it reads, directly or through any cells.
-/
theorem dependencyOrder_exact (graph : DependencyGraph) (wanted : List CellId) :
    (∃ last, Search.Walk.Ends (Search.Walk.step? graph.reads.next) (.start wanted) last ∧
      graph.dependencyOrder wanted = last.trail.left.reverse.filter (· ∈ wanted)) ∧
    (graph.dependencyOrder wanted).Nodup ∧
    (∀ x, x ∈ graph.dependencyOrder wanted ↔ x ∈ wanted) ∧
    ((∀ u ∈ wanted, ¬ CycleBehind graph.Reads u) → ∀ u ∈ wanted, ∀ v ∈ wanted,
      TransGen graph.Reads u v → Precedes (graph.dependencyOrder wanted) v u) := by
  refine ⟨⟨_, Search.Walk.ends_start graph.reads.roomy wanted, rfl⟩, ?_, fun _ => mem_dependencyOrder,
    fun acyclic u first v second way => precedes_dependencyOrder acyclic first second way⟩
  -- A postorder lists no cell twice, and leaving cells out keeps that.
  exact (Search.nodup_postorder _ _ _).filter _

/-- A graph whose first cell reads the second one, which reads the third one. -/
def chained : DependencyGraph :=
  (empty.setDependencies "B1" ["C1"] none).setDependencies "A1" ["B1"] none

/-- The first cell comes after the third one if the second one is not asked for. -/
theorem dependencyOrder_exact_chained :
    (∀ u ∈ ["A1", "C1", "A1"], ¬ CycleBehind chained.Reads u) ∧ TransGen chained.Reads "A1" "C1" ∧
    Precedes (chained.dependencyOrder ["A1", "C1", "A1"]) "C1" "A1" := by
  have acyclic : ∀ u ∈ ["A1", "C1", "A1"], ¬ CycleBehind chained.Reads u := by
    -- No cycle is found from any of them, by computation.
    have none : ∀ u ∈ ["A1", "C1", "A1"], chained.cycleFrom? u = none := by decide
    exact fun u among => (terminates_of_cycleFrom?_eq_none (none u among)).no_cycle
  have first : chained.Reads "A1" "B1" := by simp [chained, Reads]
  have second : chained.Reads "B1" "C1" := by simp [chained, Reads]
  have way : TransGen chained.Reads "A1" "C1" := .head first (.single second)
  exact ⟨acyclic, way, (dependencyOrder_exact chained ["A1", "C1", "A1"]).2.2.2 acyclic "A1" (by simp)
    "C1" (by simp) way⟩

end DependencyGraph
end Spreadsheet
