import Mathlib.Data.List.Induction
import Spreadsheet.Proofs.Cache

/-!
What any sequence of changes leaves of a cache: the links back are the transpose of its entries, and no
cell is kept with an empty set of them, even where a batch was ended by a failure.
-/

namespace Spreadsheet.Cache

variable {cache : Cache} {compute : CellId → Except Failure Value}

/--
Computes cells one after the other and records each value at the time that the clock shows by then; the
clock tells the times of all values to come.
-/
def recomputeUnder (clock : Nat → Int) (compute : CellId → Except Failure Value) :
    Cache → List CellId → Recalculation × Cache
  -- The first failure ends it, and what was recorded stays.
  | cache, [] => (⟨[], none⟩, cache)
  | cache, id :: rest =>
    match compute id with
    | .error failure => (⟨[], some (id, failure)⟩, cache)
    | .ok value =>
      let (r, cache) :=
        recomputeUnder (fun n => clock (n + 1)) compute (cache.refresh (clock 0) id value) rest
      ({ r with finished := (id, value) :: r.finished }, cache)

/-- While the clock stands still, cells are computed as at one time. -/
theorem recomputeUnder_still (now : Int) (cache : Cache) (ids : List CellId) :
    recomputeUnder (fun _ => now) compute cache ids = recomputeEach now compute cache ids := by
  -- The induction is along the cells, and the clock shows the same time at each of them.
  induction ids generalizing cache with
  | nil => rfl
  | cons id rest ih =>
    rw [recomputeUnder, recomputeEach]
    cases compute id with
    | error failure => rfl
    | ok value => simp only [ih]

/-- A change of a cache. -/
inductive Change where
  /-- A value is recorded, with the cells that it was computed from. -/
  | record (now : Int) (id : CellId) (value : Value) (dependencies : List CellId)
  /-- The value of a cell is dropped. -/
  | drop (id : CellId)
  /-- The values of a cell and of everything that was computed from it are dropped. -/
  | invalidateCascade (id : CellId)
  /-- The values that are older than an age are dropped. -/
  | evict (now maxAge : Int)
  /-- Everything is dropped. -/
  | clear
  /-- Some cells are computed anew until one of them fails, while the clock goes on as it may. -/
  | recompute (clock : Nat → Int) (compute : CellId → Except Failure Value) (ids : List CellId)

/-- The cache after a change. -/
def Change.apply (cache : Cache) : Change → Cache
  -- A batch fixes the order of its cells before it computes the first one.
  | record now id value dependencies =>
    cache.record now id value (Std.ExtTreeSet.ofList dependencies)
  | drop id => cache.drop id
  | invalidateCascade id => cache.invalidateCascade id
  | evict now maxAge => cache.evict now maxAge
  | clear => empty
  | recompute clock compute ids => (recomputeUnder clock compute cache (cache.order ids)).2

/-- The cache that some changes make, from the first to the last. -/
def ofChanges (changes : List Change) : Cache :=
  -- There are no values before the first one.
  changes.foldl Change.apply empty

/-- The links back are the transpose of the entries, and no empty set of them is kept. -/
structure Linked (cache : Cache) : Prop where
  transposed : cache.Transposed
  filled : cache.readers.Filled

/-- An empty cache has no links. -/
theorem linked_empty : empty.Linked := ⟨transposed_empty, Links.filled_empty⟩

/-- Dropping a value takes its links back and leaves no empty set. -/
theorem Linked.drop (linked : cache.Linked) (id : CellId) : (cache.drop id).Linked := by
  refine ⟨linked.transposed.drop id, ?_⟩
  unfold Cache.drop
  -- Without an entry there is nothing to take back.
  cases cache.entry? id with
  | none => exact linked.filled
  | some entry => exact linked.filled.removeFrom _ id

/-- Dropping values one after the other takes their links back and leaves no empty set. -/
theorem Linked.dropAll (linked : cache.Linked) (ids : List CellId) :
    (ids.foldl Cache.drop cache).Linked := by
  -- The induction is along the cells that are dropped.
  induction ids generalizing cache with
  | nil => exact linked
  | cons id rest ih => exact ih (linked.drop id)

/-- Recording a value puts its links in the place of those of the value before. -/
theorem Linked.record (linked : cache.Linked) (now : Int) (id : CellId) (value : Value)
    (dependencies : CellSet) : (cache.record now id value dependencies).Linked :=
  -- The old links are dropped first, and then the new ones are added.
  ⟨linked.transposed.record now id value dependencies, (linked.drop id).filled.addFrom _ id⟩

/-- Computing cells anew keeps the links exact, also where one of them fails. -/
theorem Linked.recomputeUnder (linked : cache.Linked) (clock : Nat → Int)
    (compute : CellId → Except Failure Value) (ids : List CellId) :
    (Cache.recomputeUnder clock compute cache ids).2.Linked := by
  -- The induction is along the cells, each of which is recorded before the next one is computed.
  induction ids generalizing cache clock with
  | nil => exact linked
  | cons id rest ih =>
    rw [Cache.recomputeUnder]
    cases compute id with
    | error failure => exact linked
    | ok value => exact ih (linked.record (clock 0) id value _) _

/-- Every change keeps the links exact. -/
theorem Linked.apply (linked : cache.Linked) (change : Change) : (change.apply cache).Linked := by
  -- A cascade and an eviction drop values, and a batch records them.
  cases change with
  | record now id value dependencies => exact linked.record now id value _
  | drop id => exact linked.drop id
  | invalidateCascade id => exact linked.dropAll _
  | evict now maxAge => exact linked.dropAll _
  | clear => exact linked_empty
  | recompute clock compute ids => exact linked.recomputeUnder clock compute _

/-- Whatever the changes are, the cache that they make has exact links. -/
theorem linked_ofChanges (changes : List Change) : (ofChanges changes).Linked := by
  -- The induction takes the last change off, as the cache is made from the first one on.
  induction changes using List.reverseRecOn with
  | nil => exact linked_empty
  | append_singleton changes change ih =>
    rw [ofChanges, List.foldl_append]
    exact ih.apply change

/--
After any changes a cell is linked back to another one exactly if it has a cached value that was
computed from that one, and no cell is kept with an empty set of links.
-/
theorem ofChanges_linked (changes : List Change) :
    (∀ a b, a ∈ (ofChanges changes).readers.of b ↔
      ∃ entry, entry? (ofChanges changes) a = some entry ∧ b ∈ entry.dependencies) ∧
    ∀ (b : CellId) (set : CellSet), (ofChanges changes).readers.sets[b]? = some set → set ≠ ∅ := by
  -- Both halves are kept by every change, so they hold at the end.
  obtain ⟨transposed, filled⟩ := linked_ofChanges changes
  exact ⟨fun a b => (transposed a b).trans computedFrom_iff, filled⟩

end Spreadsheet.Cache
