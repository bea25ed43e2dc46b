import Spreadsheet.Cache
import Spreadsheet.Proofs.Graph.Links

/-!
What the operations of a cache do to the entry of each cell. The links back from the cells that values
were computed from stay the transpose of the entries, so a cascade drops exactly what its entries lead
back from.
-/

namespace Spreadsheet

open Relation

namespace Cache

variable {cache : Cache} {now maxAge : Int} {a b id x : CellId} {value : Value}
  {entry : CacheEntry} {dependencies : CellSet} {ids : List CellId}

/-- Dropping a value takes the entry of that cell and of no other. -/
@[simp] theorem entry?_drop (cache : Cache) (id x : CellId) :
    entry? (cache.drop id) x = if x = id then none else cache.entry? x := by
  unfold drop
  -- Where there is no entry nothing is dropped.
  cases here : cache.entry? id with
  | none =>
    dsimp only
    split
    · rename_i same
      rw [same, here]
    · rfl
  | some entry => exact Table.get?_erase _ _ _

/-- Recording a value replaces the entry of that cell and of no other. -/
@[simp] theorem entry?_record (cache : Cache) (now : Int) (id x : CellId) (value : Value)
    (dependencies : CellSet) :
    entry? (cache.record now id value dependencies) x =
      if x = id then some ⟨value, now, dependencies⟩ else cache.entry? x := by
  -- The old entry is dropped before the new one is put in its place.
  show (((cache.drop id).entries.put id _).get? x) = _
  rw [Table.get?_put]
  split
  · rfl
  · rename_i apart
    exact (entry?_drop cache id x).trans (if_neg apart)

/-- Recording a value again keeps the cells that the cell's value was computed from. -/
theorem entry?_refresh (cache : Cache) (now : Int) (id x : CellId) (value : Value) :
    entry? (cache.refresh now id value) x =
      if x = id then some ⟨value, now, cache.dependenciesOf id⟩ else cache.entry? x :=
  entry?_record _ _ _ _ _ _

/-- Dropping values one after the other takes the entries of those cells and of no others. -/
theorem entry?_dropAll (cache : Cache) (ids : List CellId) (x : CellId) :
    entry? (ids.foldl drop cache) x = if x ∈ ids then none else cache.entry? x := by
  -- The induction is along the cells, for any cache that the ones before leave.
  induction ids generalizing cache with
  | nil => simp
  | cons id rest ih =>
    -- A cell may be listed more than once, but its entry is gone after the first time.
    rw [List.foldl_cons, ih, entry?_drop]
    by_cases same : x = id <;> simp [same]

/-- A cascade takes the entries of the cells that it finds and of no others. -/
theorem entry?_invalidateCascade (cache : Cache) (id x : CellId) :
    entry? (cache.invalidateCascade id) x =
      if x ∈ cache.cascade id then none else cache.entry? x :=
  entry?_dropAll cache _ x

/-- Eviction takes the entries of the cells whose values are too old and of no others. -/
theorem entry?_evict (cache : Cache) (now maxAge : Int) (x : CellId) :
    entry? (cache.evict now maxAge) x =
      if x ∈ cache.expired now maxAge then none else cache.entry? x :=
  entry?_dropAll cache _ x

/-- Where entries may have been taken, one that is left was there before. -/
theorem eq_some_of_taken {P : Prop} [Decidable P] {old : Option CacheEntry}
    (left : (if P then none else old) = some entry) : old = some entry := by
  split at left
  · cases left
  · exact left

/-- A cascade finds the cell that it starts from. -/
theorem self_mem_cascade (cache : Cache) (id : CellId) : id ∈ cache.cascade id :=
  Search.mem_postorder_of_mem (List.mem_singleton.mpr rfl)

/-- What a cell with an entry was computed from. -/
theorem dependenciesOf_of_entry (here : cache.entry? a = some entry) :
    cache.dependenciesOf a = entry.dependencies := by
  rw [dependenciesOf, here]

/-- A cell without an entry was computed from nothing. -/
theorem dependenciesOf_of_none (none : cache.entry? a = none) : cache.dependenciesOf a = ∅ := by
  rw [dependenciesOf, none]

/-- A cell has a cached value that was computed from another cell. -/
def ComputedFrom (cache : Cache) (a b : CellId) : Prop := b ∈ cache.dependenciesOf a

/-- Only a cell with an entry was computed from another one. -/
theorem computedFrom_iff :
    cache.ComputedFrom a b ↔ ∃ entry, cache.entry? a = some entry ∧ b ∈ entry.dependencies := by
  rw [ComputedFrom]
  -- Without an entry both sides are false.
  cases here : cache.entry? a with
  | none => simp [dependenciesOf_of_none here]
  | some entry => simp [dependenciesOf_of_entry here]

/-- Dropping a value takes what that cell was computed from. -/
theorem computedFrom_drop : (cache.drop id).ComputedFrom a b ↔ cache.ComputedFrom a b ∧ a ≠ id := by
  -- Only the dropped cell loses its entry.
  rw [computedFrom_iff, computedFrom_iff, entry?_drop]
  by_cases same : a = id <;> simp [same]

/-- Recording a value replaces what that cell was computed from. -/
theorem computedFrom_record :
    (cache.record now id value dependencies).ComputedFrom a b ↔
      if a = id then b ∈ dependencies else cache.ComputedFrom a b := by
  rw [computedFrom_iff, computedFrom_iff, entry?_record]
  by_cases same : a = id <;> simp [same]

/-- The links back lead from each cell to exactly the cells that were computed from it. -/
def Transposed (cache : Cache) : Prop :=
  -- Each direction has the links of the other one.
  ∀ a b, a ∈ cache.readers.of b ↔ cache.ComputedFrom a b

/-- An empty cache is transposed. -/
theorem transposed_empty : empty.Transposed := by
  intro a b
  rw [computedFrom_iff]
  -- There is neither a link nor an entry.
  simp [empty, entry?]

/-- Dropping a value keeps the cache transposed. -/
theorem Transposed.drop (kept : cache.Transposed) (id : CellId) : (cache.drop id).Transposed := by
  intro a b
  rw [computedFrom_drop, ← kept a b]
  unfold Cache.drop
  cases here : cache.entry? id with
  | none =>
    -- A cell without an entry is linked back to nowhere.
    refine ⟨fun linked => ⟨linked, ?_⟩, And.left⟩
    rintro rfl
    obtain ⟨entry, found, -⟩ := computedFrom_iff.mp ((kept a b).mp linked)
    exact nomatch here.symm.trans found
  | some entry =>
    dsimp only
    rw [Links.mem_removeFrom]
    refine and_congr_right fun linked => not_congr ⟨And.right, fun same => ⟨?_, same⟩⟩
    -- The links that are removed are those that the entry stands for.
    obtain ⟨own, found, member⟩ := computedFrom_iff.mp ((kept a b).mp linked)
    rw [same, here] at found
    cases found
    exact Std.ExtTreeSet.mem_toList.mpr member

/-- Dropping values one after the other keeps the cache transposed. -/
theorem Transposed.dropAll (kept : cache.Transposed) (ids : List CellId) :
    (ids.foldl Cache.drop cache).Transposed := by
  induction ids generalizing cache with
  | nil => exact kept
  | cons id rest ih => exact ih (kept.drop id)

/-- Recording a value keeps the cache transposed. -/
theorem Transposed.record (kept : cache.Transposed) (now : Int) (id : CellId) (value : Value)
    (dependencies : CellSet) : (cache.record now id value dependencies).Transposed := by
  intro a b
  -- The old links of the cell are dropped first, then the new ones are added.
  have dropped := kept.drop id a b
  rw [computedFrom_drop] at dropped
  rw [computedFrom_record]
  show a ∈ ((cache.drop id).readers.addFrom dependencies.toList id).of b ↔ _
  rw [Links.mem_addFrom, dropped, Std.ExtTreeSet.mem_toList]
  by_cases same : a = id <;> simp [same]

/-- A cascade finds the cell that it starts from and every cell whose entries lead back to it. -/
theorem mem_cascade (kept : cache.Transposed) :
    x ∈ cache.cascade id ↔ ReflTransGen cache.ComputedFrom x id := by
  have backwards : Function.swap (Search.Leads cache.readers.next) = cache.ComputedFrom := by
    funext a b
    -- The search goes from a cell to what was computed from it, which is where links lead back to.
    show Search.Leads cache.readers.next b a = _
    rw [Search.Leads, Links.mem_next]
    exact propext (kept a b)
  rw [cascade, Search.mem_postorder cache.readers.roomy, ← backwards, reflTransGen_swap]
  simp

end Cache
end Spreadsheet
