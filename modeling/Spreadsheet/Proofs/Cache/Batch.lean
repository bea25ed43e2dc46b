import Spreadsheet.Proofs.Cache.History
import Spreadsheet.Proofs.Graph.Order

/-!
Batches of cells that are computed anew: each cell is computed once, after those that its last value was
computed from, and what was finished before a failure stays.
-/

namespace Spreadsheet

open Relation

namespace Cache

variable {cache after : Cache} {clock : Nat → Int} {compute : CellId → Except Failure Value}
  {ids wanted : List CellId} {r : Recalculation} {x : CellId} {e : Failure} {k : Nat}

/-- What follows a cell in the search for an order is what its value was computed from. -/
theorem leads_dependencies (cache : Cache) :
    Search.Leads (fun id => (cache.dependenciesOf id).toList) = cache.ComputedFrom := by
  funext a b
  exact propext Std.ExtTreeSet.mem_toList

/-- One step more than there are entries is room enough for the search for an order. -/
theorem roomy_dependencies (cache : Cache) :
    Search.Roomy (fun id => (cache.dependenciesOf id).toList) (cache.size + 1) ∅ := by
  -- Only a cell with an entry was computed from anything.
  refine ⟨cache.entries.keys.toFinset, fun x followed => ?_, Nat.lt_succ_of_le ?_⟩
  · cases here : cache.entry? x with
    -- A cell without an entry has nothing following it.
    | none => exact absurd (by simp [dependenciesOf_of_none here]) followed
    | some entry => exact List.mem_toFinset.mpr (Table.mem_keys_of_get? here)
  · refine (Finset.card_filter_le _ _).trans ((List.toFinset_card_le _).trans (le_of_eq ?_))
    exact List.length_map _

/-- Some cells in the order of what their values were computed from are still those cells. -/
theorem mem_order : x ∈ cache.order wanted ↔ x ∈ wanted := Search.mem_wanted

/-- An order lists no cell twice. -/
theorem nodup_order (cache : Cache) (wanted : List CellId) : (cache.order wanted).Nodup :=
  (Search.nodup_postorder _ _ _).filter _

/-- Where no cycle is reached, a cell comes after each of the others that its value leads to. -/
theorem precedes_order {u v : CellId} (acyclic : ∀ u ∈ wanted, ¬ CycleBehind cache.ComputedFrom u)
    (first : u ∈ wanted) (second : v ∈ wanted) (way : TransGen cache.ComputedFrom u v) :
    Precedes (cache.order wanted) v u :=
  Search.precedes_wanted cache.roomy_dependencies (cache.leads_dependencies ▸ acyclic) first second
    (cache.leads_dependencies ▸ way)

/-- What a batch tells of the cells that it goes through. -/
structure Told (compute : CellId → Except Failure Value) (ids : List CellId) (r : Recalculation) :
    Prop where
  called : r.calls <+: ids
  complete : r.failed = none → r.calls = ids
  computed : ∀ entry ∈ r.finished, compute entry.1 = .ok entry.2
  failure : ∀ entry, r.failed = some entry → compute entry.1 = .error entry.2

/-- Cells are computed from the first one on, up to a failure if there is one. -/
theorem told_recomputeUnder (clock : Nat → Int) (compute : CellId → Except Failure Value)
    (cache : Cache) (ids : List CellId) :
    Told compute ids (recomputeUnder clock compute cache ids).1 := by
  -- The induction is along the cells, each step with the clock one tick further.
  induction ids generalizing clock cache with
  | nil => exact ⟨List.prefix_rfl, fun _ => rfl, by simp [recomputeUnder], by simp [recomputeUnder]⟩
  | cons id rest ih =>
    rw [recomputeUnder]
    cases run : compute id with
    | error e =>
      -- The batch ends with the cell that fails, which was called last.
      refine ⟨⟨rest, rfl⟩, by simp, by simp, fun entry failed => ?_⟩
      obtain rfl := Option.some.inj failed
      exact run
    | ok value =>
      obtain ⟨called, complete, computed, failure⟩ :=
        ih (fun n => clock (n + 1)) (cache.refresh (clock 0) id value)
      -- The first cell is called and finished before all others.
      refine ⟨List.cons_prefix_cons.mpr ⟨rfl, called⟩, fun none => congrArg (id :: ·) (complete none),
        -- Among the finished cells the first one is new.
        fun entry member => ?_, failure⟩
      rcases List.mem_cons.mp member with rfl | later
      · exact run
      · exact computed entry later

/-- A batch in which no cell fails goes through all cells, and each of them is finished. -/
theorem Told.of_ok (told : Told compute ids r) (fine : ∀ x ∈ ids, ∃ value, compute x = .ok value) :
    r.calls = ids ∧ r.finished.map Prod.fst = r.calls ∧ r.outcome = .ok r.finished := by
  have none : r.failed = none := by
    -- The failing cell would be one of those that were called.
    refine Option.eq_none_iff_forall_ne_some.mpr fun entry failed => ?_
    have called : entry.1 ∈ r.calls := by simp [Recalculation.calls, failed]
    obtain ⟨value, ok⟩ := fine entry.1 (told.called.subset called)
    exact nomatch ok.symm.trans (told.failure entry failed)
  exact ⟨told.complete none, by simp [Recalculation.calls, none], by rw [Recalculation.outcome, none]⟩

/-- Where a call fails, the calls before it are those that were finished; its failure is the outcome. -/
theorem Told.of_error (told : Told compute ids r) (here : r.calls[k]? = some x)
    (failed : compute x = .error e) :
    r.finished.map Prod.fst = r.calls.take k ∧ r.outcome = .error e := by
  -- A cell that was finished did not fail.
  have unfinished : x ∉ r.finished.map Prod.fst := by
    intro member
    obtain ⟨entry, finished, rfl⟩ := List.mem_map.mp member
    exact nomatch failed.symm.trans (told.computed entry finished)
  have calls : r.calls = r.finished.map Prod.fst ++ (r.failed.map Prod.fst).toList := rfl
  rw [calls] at here ⊢
  cases last : r.failed with
  | none =>
    rw [last, Option.map_none, Option.toList_none, List.append_nil] at here
    exact absurd (List.mem_of_getElem? here) unfinished
  | some entry =>
    obtain ⟨d, failure⟩ := entry
    rw [last, Option.map_some, Option.toList_some] at here
    -- So it is the last call, and the one that ended the batch.
    rcases lt_or_ge k (r.finished.map Prod.fst).length with early | late
    · rw [List.getElem?_append_left early] at here
      exact absurd (List.mem_of_getElem? here) unfinished
    · rw [List.getElem?_append_right late, List.getElem?_singleton, Option.ite_none_right_eq_some]
        at here
      obtain ⟨position, same⟩ := here
      obtain rfl := Option.some.inj same
      have ended := (told.failure _ last).symm.trans failed
      rw [Recalculation.outcome, last]
      refine ⟨?_, congrArg Except.error (Except.error.inj ended)⟩
      rw [List.take_append_of_le_length (by omega), List.take_of_length_le (by omega)]

/-- Recording a value again leaves what each cell's value was computed from. -/
theorem dependenciesOf_refresh (cache : Cache) (now : Int) (id x : CellId) (value : Value) :
    dependenciesOf (cache.refresh now id value) x = cache.dependenciesOf x := by
  -- Only the entry of the one cell is written anew.
  by_cases same : x = id
  · subst same
    exact dependenciesOf_of_entry ((entry?_refresh cache now x x value).trans (if_pos rfl))
  · rw [dependenciesOf, dependenciesOf, entry?_refresh, if_neg same]

/--
What computing some cells anew leaves of a cache: each of them has its new value, recorded at the time
of its turn under the cells that its last value was computed from, and all other entries are the same.
-/
structure Renewed (clock : Nat → Int) (compute : CellId → Except Failure Value) (done : List CellId)
    (cache after : Cache) : Prop where
  recorded : ∀ k x, done[k]? = some x → ∃ value, compute x = .ok value ∧
    after.entry? x = some ⟨value, clock k, cache.dependenciesOf x⟩
  others : ∀ x, x ∉ done → after.entry? x = cache.entry? x

/-- Computing nothing leaves all entries. -/
theorem Renewed.refl (clock : Nat → Int) (compute : CellId → Except Failure Value) (cache : Cache) :
    Renewed clock compute [] cache cache := ⟨nofun, fun _ _ => rfl⟩

/-- One more cell is computed before some others, of which it is none. -/
theorem Renewed.cons {id : CellId} {value : Value} {done : List CellId} (run : compute id = .ok value)
    (alone : id ∉ done) (renewed : Renewed (fun n => clock (n + 1)) compute done
      (cache.refresh (clock 0) id value) after) : Renewed clock compute (id :: done) cache after := by
  obtain ⟨recorded, others⟩ := renewed
  refine ⟨fun k x here => ?_, fun x outside => ?_⟩
  · cases k with
    | zero =>
      -- The others leave the entry of the first cell.
      obtain rfl := Option.some.inj here
      exact ⟨value, run, (others id alone).trans ((entry?_refresh _ _ _ _ _).trans (if_pos rfl))⟩
    | succ k =>
      -- Each other cell is one turn later, and its entry is not touched by the first one.
      obtain ⟨value, run, entry⟩ := recorded k x here
      exact ⟨value, run, dependenciesOf_refresh cache _ _ x _ ▸ entry⟩
  · rw [List.mem_cons, not_or] at outside
    exact (others x outside.2).trans ((entry?_refresh _ _ _ _ _).trans (if_neg outside.1))

/-- Whether a batch ends with a failure or not, the cells that it finished are those that it renewed. -/
theorem renewed_recomputeUnder (clock : Nat → Int) (compute : CellId → Except Failure Value)
    (cache : Cache) (distinct : ids.Nodup) :
    Renewed clock compute ((recomputeUnder clock compute cache ids).1.finished.map Prod.fst) cache
      (recomputeUnder clock compute cache ids).2 := by
  -- The induction is along the cells, of which none comes twice.
  induction ids generalizing clock cache with
  | nil => exact .refl clock compute cache
  | cons id rest ih =>
    obtain ⟨alone, distinct⟩ := List.nodup_cons.mp distinct
    rw [recomputeUnder]
    cases run : compute id with
    | error e => exact .refl clock compute cache
    | ok value =>
      refine (ih _ _ distinct).cons run fun again => alone ?_
      -- What is finished later was called among the other cells.
      have told := told_recomputeUnder (fun n => clock (n + 1)) compute
        (cache.refresh (clock 0) id value) rest
      exact told.called.subset (List.mem_append_left _ again)

/--
A batch of cells that are computed anew while the clock goes on as it may. It computes none of them
twice and no other cell. If no cycle of entries can be reached from the cells, each is computed after
those among them to which its entries lead. If no computation fails, all cells are computed, the outcome
lists them with their values in the order of the calls, and they alone are renewed; where one fails, the
outcome is its failure, and the cells called before it alone are renewed.
-/
theorem recompute_exact (run : recomputeUnder clock compute cache (cache.order ids) = (r, after)) :
    (∀ now, (∀ n, clock n = now) → cache.recompute now compute ids = (r, after)) ∧
    r.calls.Nodup ∧ (∀ x ∈ r.calls, x ∈ ids) ∧
    ((∀ u ∈ ids, ¬ CycleBehind cache.ComputedFrom u) → ∀ u ∈ r.calls, ∀ v ∈ ids,
      TransGen cache.ComputedFrom u v → Precedes r.calls v u) ∧
    ((∀ x ∈ ids, ∃ value, compute x = .ok value) →
      (∀ x ∈ ids, x ∈ r.calls) ∧ r.outcome = .ok r.finished ∧
      r.finished.map Prod.fst = r.calls ∧ (∀ entry ∈ r.finished, compute entry.1 = .ok entry.2) ∧
      Renewed clock compute r.calls cache after) ∧
    ∀ k x e, r.calls[k]? = some x → compute x = .error e →
      r.outcome = .error e ∧ Renewed clock compute (r.calls.take k) cache after := by
  -- The order that is gone through has no cell twice, and the batch tells what it did.
  have distinct := nodup_order cache ids
  have told := told_recomputeUnder clock compute cache (cache.order ids)
  have renewed := renewed_recomputeUnder clock compute cache distinct
  rw [run] at told renewed
  have among : ∀ x ∈ r.calls, x ∈ ids := fun x member => mem_order.mp (told.called.subset member)
  refine ⟨?_, distinct.sublist told.called.sublist, among, ?_, ?_, ?_⟩
  · intro now still
    -- A clock that stands still is one of all clocks.
    obtain rfl : clock = fun _ => now := funext still
    rw [recompute, ← recomputeUnder_still, run]
  · intro acyclic u called v second way
    -- The calls are a first part of the order, and the order is kept in it.
    exact (precedes_order acyclic (among u called) second way).of_isPrefix distinct told.called called
  · intro fine
    -- Without a failure the calls are the whole order.
    obtain ⟨complete, finished, outcome⟩ := told.of_ok fun x member => fine x (mem_order.mp member)
    refine ⟨fun x member => complete ▸ mem_order.mpr member, outcome, finished, told.computed, ?_⟩
    exact finished ▸ renewed
  · intro k x e here failed
    obtain ⟨finished, outcome⟩ := told.of_error here failed
    exact ⟨outcome, finished ▸ renewed⟩

/-- A cache in which a value was computed from a second cell, and that one's from a third cell. -/
def relayed : Cache :=
  (empty.record 0 "A1" (.whole 1) (Std.ExtTreeSet.ofList ["B1"])).record 0 "B1" (.whole 1)
    (Std.ExtTreeSet.ofList ["C1"])

/-- Cells are computed to a number, one of them left out. -/
def allBut (excluded : CellId) (id : CellId) : Except Failure Value :=
  -- The cell that is left out fails.
  if id = excluded then .error (.fault .mismatch) else .ok (.whole 2)

/-- The first two cells are renewed, one after the other, before another one fails. -/
theorem recompute_exact_relayed : ∃ r after,
    recomputeUnder (fun n => n) (allBut "D1") relayed (relayed.order ["A1", "D1", "B1", "A1"]) =
      (r, after) ∧
    (∀ u ∈ ["A1", "D1", "B1", "A1"], ¬ CycleBehind relayed.ComputedFrom u) ∧
    TransGen relayed.ComputedFrom "A1" "B1" ∧ Precedes r.calls "B1" "A1" ∧
    r.calls[2]? = some "D1" ∧ r.outcome = .error (.fault .mismatch) ∧
    Renewed (fun n => n) (allBut "D1") (r.calls.take 2) relayed after := by
  have acyclic : ∀ u ∈ ["A1", "D1", "B1", "A1"], ¬ CycleBehind relayed.ComputedFrom u := by
    -- From none of the cells the search finds a cycle.
    have none : ∀ u ∈ ["A1", "D1", "B1", "A1"],
        Search.cycle? (fun id => (relayed.dependenciesOf id).toList) (relayed.size + 1) u = none := by
      decide
    intro u among
    have ends := Search.terminates_of_cycle?_eq_none relayed.roomy_dependencies (none u among)
    exact (relayed.leads_dependencies ▸ ends).no_cycle
  have link : "B1" ∈ relayed.dependenciesOf "A1" := by decide
  have reads : TransGen relayed.ComputedFrom "A1" "B1" := .single link
  obtain ⟨-, -, -, ordered, -, failing⟩ := recompute_exact
    (rfl : recomputeUnder (fun n => n) (allBut "D1") relayed
      (relayed.order ["A1", "D1", "B1", "A1"]) = (_, _))
  -- The third call is the one that fails.
  have third := failing 2 "D1" (.fault .mismatch) (by decide) rfl
  exact ⟨_, _, rfl, acyclic, reads, ordered acyclic "A1" (by decide) "B1" (by decide) reads,
    by decide, third⟩

end Cache
end Spreadsheet
