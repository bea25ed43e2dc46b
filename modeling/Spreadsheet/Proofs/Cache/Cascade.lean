import Spreadsheet.Proofs.Cache.History
import Spreadsheet.Proofs.Graph.Closure

/-!
What a cascade of invalidation finds and what it leaves: it drops the entries that lead back to a cell
and no others, in whatever order they are dropped.
-/

namespace Spreadsheet

open Relation

/-- Links without empty sets are determined by what each cell is linked to. -/
theorem Links.Filled.ext {links other : Links} (filled : links.Filled) (filled' : other.Filled)
    (same : ∀ a, links.of a = other.of a) : links = other := by
  obtain ⟨sets⟩ := links
  obtain ⟨sets'⟩ := other
  rw [Links.mk.injEq]
  refine Std.ExtTreeMap.ext_getElem? fun a => ?_
  -- A cell without a set is linked to nothing, which no set that is kept says.
  have linked := same a
  simp only [Links.of, Std.ExtTreeMap.getD_eq_getD_getElem?] at linked
  cases here : sets[a]? with
  | none =>
    cases there : sets'[a]? with
    | none => rfl
    | some set => exact absurd (by simpa [here, there] using linked.symm) (filled' a set there)
  | some set =>
    cases there : sets'[a]? with
    | none => exact absurd (by simpa [here, there] using linked) (filled a set here)
    | some set' => simpa [here, there] using linked

namespace Cache

variable {cache other : Cache} {id : CellId} {ids : List CellId}

/-- Dropping a value takes the row of that cell, if there is one. -/
theorem entries_drop (cache : Cache) (id : CellId) :
    (cache.drop id).entries = cache.entries.erase id := by
  unfold drop
  cases here : cache.entry? id with
  | some entry => rfl
  | none =>
    -- Without an entry no row is that of the cell.
    have absent := List.lookup_eq_none_iff.mp here
    have kept : cache.entries.rows.filter (·.1 ≠ id) = cache.entries.rows :=
      List.filter_eq_self.mpr fun row member =>
        decide_eq_true (Ne.symm (bne_iff_ne.mp (absent row member)))
    show cache.entries = ⟨_⟩
    rw [kept]

/-- Dropping values one after the other takes the rows of those cells and of no others. -/
theorem rows_dropAll (cache : Cache) (ids : List CellId) :
    (ids.foldl drop cache).entries.rows = cache.entries.rows.filter (·.1 ∉ ids) := by
  -- The induction is along the cells that are dropped.
  induction ids generalizing cache with
  | nil => simp
  | cons id rest ih =>
    rw [List.foldl_cons, ih, entries_drop, Table.erase, List.filter_filter]
    exact List.filter_congr fun row _ => by simp [Bool.and_comm]

/-- A cache with exact links is determined by its entries. -/
theorem Linked.ext (linked : cache.Linked) (linked' : other.Linked)
    (same : cache.entries.rows = other.entries.rows) : cache = other := by
  obtain ⟨⟨rows⟩, readers⟩ := cache
  obtain ⟨⟨rows'⟩, readers'⟩ := other
  obtain rfl : rows = rows' := same
  have links : readers = readers' := by
    -- The links back say of each cell what the entries say of it.
    refine linked.filled.ext linked'.filled fun b => Std.ExtTreeSet.ext_mem fun a => ?_
    exact (linked.transposed a b).trans (linked'.transposed a b).symm
  rw [links]

/-- In whatever order the same values are dropped, the same cache is left. -/
theorem Linked.dropAll_congr (linked : cache.Linked) {order : List CellId}
    (same : ∀ x, x ∈ order ↔ x ∈ ids) : order.foldl Cache.drop cache = ids.foldl Cache.drop cache := by
  refine (linked.dropAll order).ext (linked.dropAll ids) ?_
  -- Only the rows count, and those that are left are the same.
  rw [rows_dropAll, rows_dropAll]
  exact List.filter_congr fun row _ => by simp [same]

/--
A cascade in a cache that any changes made. In whatever order the links back of each cell are gone
through, the search ends, and it finds the cell itself with every cell from which entries lead to it,
each with the next cell among those that its value was computed from. In whatever order the values of
these cells are then dropped, the same cache is left, in which exactly their entries are gone.
-/
theorem cascade_exact (changes : List Change) (id : CellId) :
    (∀ order : (ofChanges changes).readers.Listing,
      Search.Frontier.finds (Search.Frontier.among? order.next) [id] =
        .some (Std.ExtTreeSet.ofList ((ofChanges changes).cascade id))) ∧
    (∀ x, x ∈ (ofChanges changes).cascade id ↔
      ReflTransGen (fun a b => ∃ entry, entry? (ofChanges changes) a = some entry ∧
        b ∈ entry.dependencies) x id) ∧
    (∀ order : List CellId, (∀ x, x ∈ order ↔ x ∈ (ofChanges changes).cascade id) →
      order.foldl drop (ofChanges changes) = (ofChanges changes).invalidateCascade id) ∧
    ∀ x, entry? ((ofChanges changes).invalidateCascade id) x =
      if x ∈ (ofChanges changes).cascade id then none else entry? (ofChanges changes) x := by
  -- After any changes the links back are the transpose of the entries.
  have linked := linked_ofChanges changes
  refine ⟨fun order => ?_, fun x => ?_, fun order => linked.dropAll_congr,
    entry?_invalidateCascade _ id⟩
  · obtain ⟨_, covers⟩ := order.covered
    refine Search.Frontier.finds_among covers fun x => ?_
    -- The search goes against the direction in which values are computed from others.
    have against : Search.Leads order.next = Function.swap (ofChanges changes).ComputedFrom := by
      funext a b
      exact propext ((order.lists a b).trans (linked.transposed b a))
    simp [mem_cascade linked.transposed, against, reflTransGen_swap]
  · -- What is found leads to the cell along entries.
    rw [mem_cascade linked.transposed]
    simp only [← computedFrom_iff]

end Cache
end Spreadsheet
