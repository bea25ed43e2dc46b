import Spreadsheet.Proofs.Reached

/-!
Cascades of invalidation in any session: the cache leads back along its own entries, so a cascade drops
what cached values lead from, which need not be all that the graph has recorded as depending on a cell.
-/

namespace Spreadsheet

open Relation DependencyGraph

namespace Session

variable {session : Session} {x y : CellId}

/-- A cascade leaves the entries of the cells that no cached values lead from. -/
theorem Consistent.entry?_invalidateCascade (consistent : Consistent session) (id : String)
    (x : CellId) {entry : CacheEntry} :
    (session.invalidateCascade id).cache.entry? x = some entry ↔
      session.cache.entry? x = some entry ∧
        ¬ ReflTransGen session.cache.ComputedFrom x (Text.upper id) := by
  -- The id is put in upper case first.
  show Cache.entry? (session.cache.invalidateCascade (Text.upper id)) x = some entry ↔ _
  rw [Cache.entry?_invalidateCascade, ← Cache.mem_cascade consistent.cache]
  by_cases found : x ∈ session.cache.cascade (Text.upper id) <;> simp [found]

/-- Where all dependents of a cell are cached with what they read, cached values lead to the cell. -/
theorem Consistent.computedFrom_of_reads (consistent : Consistent session) {id : String}
    (current : ∀ y ∈ session.allDependents id,
      session.cache.dependenciesOf y = session.graph.dependenciesOf y)
    (dependent : x ∈ session.allDependents id) :
    TransGen session.cache.ComputedFrom x (Text.upper id) := by
  have reached := consistent.mem_allDependents.mp dependent
  -- The induction is along the reads, each of which starts in a dependent.
  have link : ∀ {a b}, a ∈ session.allDependents id → session.graph.Reads a b →
      session.cache.ComputedFrom a b := by
    intro a b depends reads
    rw [Cache.ComputedFrom, current a depends]
    exact reads
  induction reached using TransGen.head_induction_on with
  | single reads => exact .single (link dependent reads)
  | head reads onwards ih =>
    exact .head (link dependent reads) (ih (consistent.mem_allDependents.mpr onwards))

/--
After any calls, a cascade from a cell drops its entry, and the entries of its dependents from which
entries lead to the cell, each with the next cell among the cells that it was computed from. These are
all dependents if every one of them is cached with what the graph has recorded for it.
-/
theorem invalidateCascade_exact (reached : Reached session) (id : String) :
    (session.invalidateCascade id).cached? id = none ∧
    (∀ y ∈ session.allDependents id,
      (session.invalidateCascade id).cache.contains y = true ↔
        session.cache.contains y = true ∧
          ¬ ReflTransGen session.cache.ComputedFrom y (Text.upper id)) ∧
    ((∀ y ∈ session.allDependents id,
        session.cache.dependenciesOf y = session.graph.dependenciesOf y) →
      ∀ y ∈ session.allDependents id, (session.invalidateCascade id).cache.contains y = false) := by
  have consistent := reached.consistent
  -- What is said of entries is said of being cached.
  have left : ∀ y, (session.invalidateCascade id).cache.contains y = true ↔
      session.cache.contains y = true ∧
        ¬ ReflTransGen session.cache.ComputedFrom y (Text.upper id) := by
    intro y
    rw [Cache.contains, Cache.contains, Option.isSome_iff_exists, Option.isSome_iff_exists]
    simp only [consistent.entry?_invalidateCascade, exists_and_right]
  refine ⟨?_, fun y _ => left y, fun current y dependent => ?_⟩
  · -- A cell is the first one that its cascade finds.
    have dropped : ¬ (session.invalidateCascade id).cache.contains (Text.upper id) = true :=
      fun cached => ((left _).mp cached).2 .refl
    rw [Cache.contains, Bool.not_eq_true, Option.isSome_eq_false_iff, Option.isNone_iff_eq_none]
      at dropped
    rw [cached?, Cache.value?, dropped, Option.map_none]
  · -- Recorded reads are then entries, along which the cascade finds the cell.
    rw [← Bool.not_eq_true, left]
    have leads := (consistent.computedFrom_of_reads current dependent).to_reflTransGen
    exact fun cached => cached.2 leads

/-- A sheet in which a cell refers to a second one that refers to a third one. -/
def relay : Sheet :=
  -- The last one holds a number.
  (((Grid.empty.put ⟨0, 0⟩ ⟨.whole 1, none, .number⟩).put ⟨1, 0⟩ ⟨.blank, some "=A1", .text⟩).put
    ⟨2, 0⟩ ⟨.blank, some "=B1", .text⟩).sheet

/-- A session in which only the first cell has been evaluated; the second one was not cached. -/
def relayed : Session :=
  (Session.evaluate relay "C1" "=B1" (start (.builtin 100) Cache.usualAge)).2

/-- A dependent whose value was computed through a cell without an entry stays cached. -/
theorem cascade_incomplete : Reached relayed ∧ "C1" ∈ relayed.allDependents "A1" ∧
    (relayed.invalidateCascade "A1").cache.contains "C1" = true :=
  ⟨.evaluate (.start _ _) relay "C1" "=B1", by decide +kernel, by decide +kernel⟩

/-- There a cascade from the last cell drops its entry, and a cascade from the second one is complete. -/
theorem invalidateCascade_exact_relayed : Reached relayed ∧
    (relayed.invalidateCascade "A1").cached? "A1" = none ∧
    (∀ y ∈ relayed.allDependents "B1",
      relayed.cache.dependenciesOf y = relayed.graph.dependenciesOf y) ∧
    ∀ y ∈ relayed.allDependents "B1", (relayed.invalidateCascade "B1").cache.contains y = false := by
  have reached : Reached relayed := .evaluate (.start _ _) relay "C1" "=B1"
  -- Only the last cell depends on the second one, and it is cached with what it reads.
  have only : (relayed.allDependents "B1").toList = ["C1"] := by decide +kernel
  have same : relayed.cache.dependenciesOf "C1" = relayed.graph.dependenciesOf "C1" := by
    decide +kernel
  have current : ∀ y ∈ relayed.allDependents "B1",
      relayed.cache.dependenciesOf y = relayed.graph.dependenciesOf y := by
    intro y dependent
    rw [← Std.ExtTreeSet.mem_toList, only, List.mem_singleton] at dependent
    rw [dependent, same]
  exact ⟨reached, (invalidateCascade_exact reached "A1").1, current,
    (invalidateCascade_exact reached "B1").2.2 current⟩

end Session
end Spreadsheet
