import Spreadsheet.Graph.Search
import Spreadsheet.Failure
import Spreadsheet.Table

/-!
A cache of computed values with the cells each of them was computed from, and the links back from
those cells, along which a change makes values invalid.
-/

namespace Spreadsheet

/-- A cached value. -/
structure CacheEntry where
  value : Value
  /-- When the value was recorded, in milliseconds. -/
  time : Int
  /-- The cells that the value was computed from. -/
  dependencies : CellSet

/-- Cached values in the order in which they were recorded, and the links back to them. -/
structure Cache where
  entries : Table CellId CacheEntry
  /-- For each cell, the cached cells that were computed from it. -/
  readers : Links

/-- The size of a cache, the number of cells its values depend on, and the time of the oldest one. -/
structure CacheStats where
  size : Nat
  dependencies : Nat
  oldest : Option Int
  deriving DecidableEq, Repr

/-- What came of recomputing some cells: those that were finished, and the failure that ended it. -/
structure Recalculation where
  finished : List (CellId × Value)
  failed : Option (CellId × Failure)

namespace Recalculation

/-- The cells that were computed, the one that failed included. -/
def calls (r : Recalculation) : List CellId :=
  -- The failing cell is the last one.
  r.finished.map (·.1) ++ (r.failed.map (·.1)).toList

/-- The values of all cells, or the failure. -/
def outcome (r : Recalculation) : Except Failure (List (CellId × Value)) :=
  -- A failure hides what was finished.
  match r.failed with
  | some (_, failure) => .error failure
  | none => .ok r.finished

end Recalculation

namespace Cache

/-- The usual age beyond which values are dropped, five minutes. -/
def usualAge : Int := 300000

/-- A cache without values. -/
def empty : Cache := ⟨.empty, .empty⟩

/-- The entry of a cell. -/
def entry? (cache : Cache) (id : CellId) : Option CacheEntry := cache.entries.get? id

/-- The cached value of a cell. -/
def value? (cache : Cache) (id : CellId) : Option Value := (cache.entry? id).map CacheEntry.value

/-- A cell has a cached value. -/
def contains (cache : Cache) (id : CellId) : Bool := (cache.entry? id).isSome

/-- The number of cached values. -/
def size (cache : Cache) : Nat := cache.entries.size

/-- The cells that a cached value was computed from, none without a value. -/
def dependenciesOf (cache : Cache) (id : CellId) : CellSet :=
  -- The set of the entry.
  match cache.entry? id with
  | some entry => entry.dependencies
  | none => ∅

/-- Drops the value of a cell, with the links back to it. -/
def drop (cache : Cache) (id : CellId) : Cache :=
  -- Links back from the cell to other values stay.
  match cache.entry? id with
  | none => cache
  | some entry =>
    { entries := cache.entries.erase id
      readers := cache.readers.removeFrom entry.dependencies.toList id }

/-- Records a value and the cells it was computed from; it becomes the latest entry. -/
def record (cache : Cache) (now : Int) (id : CellId) (value : Value) (dependencies : CellSet) :
    Cache :=
  -- An earlier value of the cell is dropped first.
  let dropped := cache.drop id
  { entries := dropped.entries.put id ⟨value, now, dependencies⟩
    readers := dropped.readers.addFrom dependencies.toList id }

/-- Records a value under the dependencies that the cell has already. -/
def refresh (cache : Cache) (now : Int) (id : CellId) (value : Value) : Cache :=
  -- A cell without an entry gets one without dependencies.
  cache.record now id value (cache.dependenciesOf id)

/-- A cell with everything that was computed from it, directly or not. -/
def cascade (cache : Cache) (id : CellId) : List CellId :=
  -- Only cells with cached values are passed through.
  Search.postorder cache.readers.next (cache.readers.sets.size + 1) [id]

/-- Drops the values of a cell and of everything that was computed from it. -/
def invalidateCascade (cache : Cache) (id : CellId) : Cache :=
  -- The cells are found before any value is dropped.
  (cache.cascade id).foldl drop cache

/-- The cells whose values are older than an age, in the order in which they were recorded. -/
def expired (cache : Cache) (now maxAge : Int) : List CellId :=
  -- A value of exactly that age is kept.
  (cache.entries.rows.filter fun (_, entry) => maxAge < now - entry.time).map (·.1)

/-- Drops the values that are older than an age. -/
def evict (cache : Cache) (now maxAge : Int) : Cache :=
  -- The cells are found before any value is dropped.
  (cache.expired now maxAge).foldl drop cache

/-- Size, links and age of a cache. -/
def stats (cache : Cache) : CacheStats :=
  -- The oldest entry has the earliest time.
  { size := cache.size
    dependencies := cache.readers.sets.size
    oldest := (cache.entries.rows.map (·.2.time)).min? }

/-- Some cells, each once and after the cells among them that its value was computed from. -/
def order (cache : Cache) (wanted : List CellId) : List CellId :=
  -- Other cells are passed through and left out.
  (Search.postorder (fun id => (cache.dependenciesOf id).toList) (cache.size + 1) wanted).filter
    (· ∈ wanted)

/-- Computes cells one after the other and records each value at once. -/
def recomputeEach (now : Int) (compute : CellId → Except Failure Value) :
    Cache → List CellId → Recalculation × Cache
  -- The first failure ends it, and what was recorded stays.
  | cache, [] => (⟨[], none⟩, cache)
  | cache, id :: rest =>
    match compute id with
    | .error failure => (⟨[], some (id, failure)⟩, cache)
    | .ok value =>
      let (r, cache) := recomputeEach now compute (cache.refresh now id value) rest
      ({ r with finished := (id, value) :: r.finished }, cache)

/-- Computes some cells anew, each once and after those its last value was computed from. -/
def recompute (cache : Cache) (now : Int) (compute : CellId → Except Failure Value)
    (ids : List CellId) : Recalculation × Cache :=
  -- The order is fixed before the first cell is computed.
  recomputeEach now compute cache (cache.order ids)

end Cache
end Spreadsheet
