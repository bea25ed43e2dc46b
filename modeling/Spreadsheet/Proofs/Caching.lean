import Spreadsheet.Proofs.Cache
import Spreadsheet.Proofs.History

/-!
What is cached along a history of edits: only cells with formulas, each with the value that the sheet
shows and with the cells that its formula is recorded as reading.
-/

namespace Spreadsheet

open Relation DependencyGraph Stateful Session

variable {maxDepth : Int} {sheet : Sheet} {p : Position} {formula : String} {v : Value} {x : CellId}

/-- What a cell's formula refers to, as a set. -/
def Formulas.referenceSet (formulas : Formulas) (x : CellId) : CellSet :=
  -- The order of the references is lost.
  Std.ExtTreeSet.ofList (formulas.references x)

/--
Some changes have been cached: an entry is one of them, of a cell with a formula and with what is read
there, or an old one that none of them replaces.
-/
def Cached (formulas : Formulas) (read : CellId → CellSet) (changes : List (CellId × Value))
    (cache later : Cache) : Prop :=
  ∀ x entry, later.entry? x = some entry →
    (x ∉ changes.map Prod.fst ∧ cache.entry? x = some entry) ∨
      ((x, entry.value) ∈ changes ∧ entry.dependencies = read x ∧
        ∃ formula, formulas x = some formula)

namespace Cached

variable {formulas : Formulas} {read : CellId → CellSet} {cache later last : Cache}
  {entry : CellId × Value} {changes rest : List (CellId × Value)}

/-- Without changes the entries are the old ones. -/
theorem refl (formulas : Formulas) (read : CellId → CellSet) (cache : Cache) :
    Cached formulas read [] cache cache := fun _ _ here => .inl ⟨List.not_mem_nil, here⟩

/-- One change after the other leaves the entries of both. -/
theorem cons (first : Cached formulas read [entry] cache later)
    (others : Cached formulas read rest later last) :
    Cached formulas read (entry :: rest) cache last := by
  intro x found here
  -- An entry that the others leave is the first one's or an old one.
  rcases others x found here with ⟨unchanged, between⟩ | ⟨member, told⟩
  · rcases first x found between with ⟨unchanged', before⟩ | ⟨member, told⟩
    · refine .inl ⟨?_, before⟩
      simpa [not_or] using ⟨by simpa using unchanged', by simpa using unchanged⟩
    · exact .inr ⟨List.mem_cons.mpr (.inl (List.mem_singleton.mp member)), told⟩
  · exact .inr ⟨List.mem_cons_of_mem _ member, told⟩

/-- What is read matters at the cells that change alone. -/
theorem congr (cached : Cached formulas read changes cache later) (other : CellId → CellSet)
    (same : ∀ x ∈ changes.map Prod.fst, read x = other x) :
    Cached formulas other changes cache later := by
  -- Only the dependencies of a new entry are compared with what is read.
  intro x found here
  refine (cached x found here).imp_right fun ⟨member, told, has⟩ => ⟨member, ?_, has⟩
  rw [told, same x (List.mem_map_of_mem member)]

end Cached

namespace Session

variable {session after : Session} {entry : CellId × Value} {changes : List (CellId × Value)}

/-- The value that is shown of a formula is cached with what the graph has recorded by then. -/
theorem evaluateOrError_cache (on : p.OnSheet)
    (done : evaluateOrError sheet p.id formula session = (.ok v, after)) :
    after.cache =
      session.cache.record session.now p.id v (after.graph.dependenciesOf p.id) := by
  rw [evaluateOrError_call, worked, work, Position.upper_id on] at done
  generalize session.evaluator.evaluate sheet p.id formula session.workspace = run at done
  -- Whatever is shown is cached, and a fault is not shown.
  obtain ⟨outcome, w⟩ := run
  cases meant : shown outcome with
  | ok shows =>
    rw [meant] at done
    cases done
    rfl
  | error e =>
    rw [meant] at done
    cases done

/-- Computing a dependent with a formula caches its value with what the formula refers to. -/
theorem renew_cached (positive : 0 < maxDepth) (ready : Ready maxDepth session) (named : p.Named)
    (has : Sheet.formulaAt sheet p = some formula)
    (done : renew sheet p.id session = (.ok entry, after)) :
    Cached (Sheet.formulas sheet) (Sheet.formulas sheet).referenceSet [entry] session.cache
      after.cache := by
  -- The call gave a value, so the dependent names a cell, whose formula was evaluated.
  obtain ⟨v, between, looked, done⟩ := bind_eq_ok.mp done
  cases done
  rcases revalue_cases sheet named.onSheet session with ⟨e, run⟩ | ⟨-, run⟩
  · exact nomatch run.symm.trans looked
  rw [run, has] at looked
  obtain ⟨-, current, -⟩ := evaluateOrError_ok ready named has looked
  have recorded := evaluateOrError_cache named.onSheet looked
  intro x found here
  -- The value is recorded twice, the second time under the dependencies of the first time.
  change Cache.entry? (between.cache.refresh between.now p.id v) x = some found at here
  rw [Cache.entry?_refresh, Cache.dependenciesOf, recorded] at here
  simp only [Cache.entry?_record, if_true] at here
  split at here
  · rename_i same
    cases here
    refine .inr ⟨by simp [same], ?_, formula, ?_⟩
    · rw [same]
      exact (current positive).dependencies
    · rw [same, Sheet.formulas_id sheet named, has]
  · rename_i apart
    exact .inl ⟨by simpa using apart, here⟩

/-- Computing dependents with formulas caches their values with what the formulas refer to. -/
theorem mapM_renew_cached (positive : 0 < maxDepth) {ids : List CellId}
    (formed : ∀ x ∈ ids, ∃ (q : Position) (formula : String), q.Named ∧ q.id = x ∧
      Sheet.formulaAt sheet q = some formula)
    (ready : Ready maxDepth session)
    (done : ids.mapM (renew sheet) session = (.ok changes, after)) :
    Cached (Sheet.formulas sheet) (Sheet.formulas sheet).referenceSet changes session.cache
      after.cache := by
  -- The induction is along the dependents, each computed in the session that the ones before leave.
  induction ids generalizing session changes with
  | nil =>
    cases done
    exact .refl _ _ _
  | cons x rest ih =>
    rw [List.mapM_cons] at done
    obtain ⟨entry, between, first, done⟩ := bind_eq_ok.mp done
    obtain ⟨others, last, later, done⟩ := bind_eq_ok.mp done
    cases done
    obtain ⟨q, formula, named, rfl, has⟩ := formed x List.mem_cons_self
    obtain ⟨refreshed, -⟩ := renew_ok ready named.onSheet first
    have onwards := ih (fun y member => formed y (List.mem_cons_of_mem _ member)) refreshed.ready
      later
    exact (renew_cached positive ready named has first).cons onwards

/-- Where the records are exact, whatever a change affects is cached with what its formula reads. -/
theorem recalculateDependents_cached (positive : 0 < maxDepth) (ready : Ready maxDepth session)
    (exact : ∀ x, Current (Sheet.formulas sheet) session.graph x) (on : p.OnSheet)
    (done : recalculateDependents sheet p.id session = (.ok changes, after)) :
    Cached (Sheet.formulas sheet) (Sheet.formulas sheet).referenceSet changes session.cache
      after.cache := by
  rw [recalculateDependents_call] at done
  refine mapM_renew_cached positive (fun x member => ?_) ready done
  -- A cell that is affected reads something, and by an exact record it does so by its formula.
  obtain ⟨-, reached⟩ := (mem_affected ready on).mp member
  obtain ⟨y, reads, -⟩ := TransGen.head'_iff.mp reached
  obtain ⟨formula, has⟩ := ((exact x).reads_iff.mp reads).has_formula
  obtain ⟨q, named, same, here⟩ := Sheet.named_of_formulas has
  exact ⟨q, formula, named, same, here⟩

/-- A change affects nothing where nothing is recorded. -/
theorem recalculateDependents_unread (ready : Ready maxDepth session)
    (unread : ∀ x, session.graph.dependenciesOf x = ∅) (on : p.OnSheet)
    (done : recalculateDependents sheet p.id session = (.ok changes, after)) :
    changes = [] ∧ after = session := by
  have none : session.affected p.id = [] := by
    -- Whatever is affected reads something.
    refine List.eq_nil_iff_forall_not_mem.mpr fun x member => ?_
    obtain ⟨-, reached⟩ := (mem_affected ready on).mp member
    obtain ⟨y, reads, -⟩ := TransGen.head'_iff.mp reached
    simp [Reads, unread x] at reads
  rw [recalculateDependents_call, none] at done
  cases done
  exact ⟨rfl, rfl⟩

/-- Without any depth nothing is recorded. -/
theorem evaluateOrError_shallow (shallow : maxDepth ≤ 0) (ready : Ready maxDepth session)
    (on : p.OnSheet) (done : evaluateOrError sheet p.id formula session = (.ok v, after)) :
    after.graph = session.graph := by
  obtain ⟨-, workspace, -⟩ := evaluateOrError_run sheet on formula session
  rw [done] at workspace
  rw [graph, workspace, ready.evaluator]
  exact congrArg Workspace.graph (Evaluator.evaluate_shallow shallow sheet p.id formula session.workspace)

end Session

namespace Workbook

variable {book between after : Workbook} {grid : Grid} {cell : Cell} {entry : CacheEntry}
  {changes rest : List (CellId × Value)}

/-- An entry is that of a cell with a formula: it has the cell's value and its recorded reads. -/
structure Mirrors (book : Workbook) (x : CellId) (entry : CacheEntry) : Prop where
  cell : ∃ (p : Position) (cell : Cell) (formula : String), p.Named ∧ p.id = x ∧
    book.grid.cellAt p = some cell ∧ cell.activeFormula? = some formula ∧ cell.value = entry.value
  dependencies : entry.dependencies = book.session.graph.dependenciesOf x

/-- Every entry of the cache is that of a cell with a formula. -/
def Mirrored (book : Workbook) : Prop :=
  ∀ x entry, book.session.cache.entry? x = some entry → Mirrors book x entry

/-- Without any depth nothing is recorded. -/
def Unread (maxDepth : Int) (book : Workbook) : Prop :=
  maxDepth ≤ 0 → ∀ x, book.session.graph.dependenciesOf x = ∅

/-- Settling a cell caches the value of a formula, and drops that of a plain value. -/
theorem settle_cached (named : p.Named)
    (done : settle p.id cell { book with grid := book.grid.put p cell } = (.ok v, between)) :
    Cached (Sheet.formulas (book.grid.put p cell).sheet) between.session.graph.dependenciesOf
      [(p.id, v)] book.session.cache between.session.cache := by
  have own := (Sheet.formulas_id (book.grid.put p cell).sheet named).trans
    -- The formulas are those of the sheet on which the cell stands already.
    (formulaAt_put book.grid p cell)
  intro x found here
  -- A formula is evaluated and cached; a plain value is forgotten with what was computed from it.
  cases active : cell.activeFormula? with
  | some formula =>
    obtain ⟨evaluates, -⟩ := settle_formula_ok named active done
    rw [evaluateOrError_cache named.onSheet evaluates, Cache.entry?_record] at here
    split at here
    · rename_i same
      cases here
      subst same
      exact .inr ⟨List.mem_singleton.mpr rfl, rfl, formula, own.trans active⟩
    · rename_i apart
      exact .inl ⟨by simpa using apart, here⟩
  | none =>
    obtain ⟨-, rfl⟩ := settle_value_ok active done
    -- The cell itself is the first one that the cascade drops.
    change Cache.entry? (book.session.cache.invalidateCascade (Text.upper p.id)) x = some found
      at here
    rw [Position.upper_id named.onSheet, Cache.entry?_invalidateCascade] at here
    split at here
    · cases here
    · rename_i outside
      refine .inl ⟨fun member => outside ?_, here⟩
      rw [List.map_singleton, List.mem_singleton] at member
      exact member ▸ Cache.self_mem_cascade _ _

/-- Settling a cell records nothing without any depth. -/
theorem settle_unread (ready : book.Ready maxDepth) (unread : Unread maxDepth book) (named : p.Named)
    (done : settle p.id cell { book with grid := book.grid.put p cell } = (.ok v, between)) :
    Unread maxDepth between := by
  intro shallow x
  cases active : cell.activeFormula? with
  | some formula =>
    obtain ⟨evaluates, -⟩ := settle_formula_ok named active done
    rw [evaluateOrError_shallow shallow ready named.onSheet evaluates]
    exact unread shallow x
  -- A formula records nothing then, and forgetting a cell without records leaves none as well.
  | none =>
    obtain ⟨-, rfl⟩ := settle_value_ok active done
    show (book.session.graph.remove (Text.upper p.id)).dependenciesOf x = ∅
    rw [dependenciesOf_remove, unread shallow x, ite_self]

/-- Values have been cached under what is recorded, and the records are as before. -/
structure CachedAnew (formulas : Formulas) (changes : List (CellId × Value)) (session later : Session) :
    Prop where
  cached : Cached formulas session.graph.dependenciesOf changes session.cache later.cache
  dependencies : ∀ x, later.graph.dependenciesOf x = session.graph.dependenciesOf x

/-- Computing what depends on a settled cell caches it as it is recorded. -/
theorem Settled.cachedAnew {session : Session} (named : p.Named)
    (settled : Settled maxDepth p cell grid v between) (unread : Unread maxDepth between)
    (recalculates : recalculateDependents between.grid.sheet p.id between.session =
      (.ok rest, session)) :
    CachedAnew (Sheet.formulas grid.sheet) rest between.session session := by
  -- Without any depth nothing depends on the cell; otherwise the records are exact all the time.
  rcases le_or_gt maxDepth 0 with shallow | positive
  · obtain ⟨rfl, rfl⟩ :=
      recalculateDependents_unread settled.ready (unread shallow) named.onSheet recalculates
    exact ⟨.refl _ _ _, fun _ => rfl⟩
  · have exact := settled.exact positive
    rw [← settled.formulas] at exact ⊢
    have cached := recalculateDependents_cached positive settled.ready exact named.onSheet recalculates
    obtain ⟨refreshed, -⟩ := recalculateDependents_ok settled.ready named.onSheet recalculates
    -- The cache stores what was recorded at the time, which is what is recorded in the end.
    refine ⟨cached.congr _ fun x _ => (exact x).dependencies.symm, fun x => ?_⟩
    exact (refreshed.refreshes.current (exact x)).dependencies.trans (exact x).dependencies.symm

/-- The changes of an edit are for different cells. -/
theorem Settled.distinct {session : Session} (named : p.Named)
    (settled : Settled maxDepth p cell grid v between)
    (recalculates : recalculateDependents between.grid.sheet p.id between.session =
      (.ok rest, session)) : (((p.id, v) :: rest).map Prod.fst).Nodup := by
  obtain ⟨-, keys, -⟩ := recalculateDependents_ok settled.ready named.onSheet recalculates
  rw [List.map_cons, keys, List.nodup_cons, mem_affected settled.ready named.onSheet]
  -- The edited cell is not computed again, and the order of the others lists none of them twice.
  exact ⟨fun reached => reached.1 rfl, (Search.nodup_postorder _ _ _).filter _⟩

/-- Where records are exact, or nothing is recorded, an edit leaves those of all other cells. -/
theorem Sound.dependencies_of_ne (sound : Sound maxDepth book) (unread : Unread maxDepth book)
    (sound' : Sound maxDepth after) (unread' : Unread maxDepth after)
    (same : Sheet.formulas book.grid.sheet x = Sheet.formulas after.grid.sheet x) :
    book.session.graph.dependenciesOf x = after.session.graph.dependenciesOf x := by
  -- Exact records are what the formula refers to, and the cell has the same formula.
  rcases le_or_gt maxDepth 0 with shallow | positive
  · rw [unread shallow x, unread' shallow x]
  · rw [(sound.exact positive x).dependencies, (sound'.exact positive x).dependencies,
      Formulas.references_congr same]

/-- An edit that succeeds leaves in the cache what its cells show. -/
theorem edit_mirrored {input : Input} (sound : Sound maxDepth book) (unread : Unread maxDepth book)
    (mirrored : Mirrored book) (on : p.OnSheet)
    (done : edit p.id input book = (.ok changes, after)) :
    Unread maxDepth after ∧ Mirrored after := by
  have sound' := (edit_sound sound on done).1
  obtain ⟨named, cell, v, between, rest, session, _, settles, recalculates, presents, rfl⟩ :=
    edit_ok on done
  -- The edited cell is settled first, then what depends on it is computed and shown.
  have settled := settle_settled sound named settles
  have spread := settled.spread named recalculates presents
  have distinct := settled.distinct named recalculates
  have unread' := settle_unread sound.ready unread named settles
  have anew := settled.cachedAnew named unread' recalculates
  obtain ⟨-, -, entries⟩ := recalculateDependents_ok settled.ready named.onSheet recalculates
  obtain ⟨rfl, -⟩ := presentAll_ok presents fun entry member =>
    (entries entry member).imp fun _ told => ⟨told.1, told.2.1⟩
  have unread'' : Unread maxDepth after := fun shallow x =>
    (anew.dependencies x).trans (unread' shallow x)
  refine ⟨unread'', fun x entry here => ?_⟩
  have shows := settled.shows.cons spread.shows
  have cached := ((settle_cached named settles).cons anew.cached).congr
    after.session.graph.dependenciesOf fun x _ => (anew.dependencies x).symm
  rcases cached x entry here with ⟨outside, before⟩ | ⟨member, read, formula, has⟩
  · -- An old entry is that of a cell that the edit leaves alone.
    obtain ⟨⟨q, old, formula, named', rfl, stood, active, value⟩, told⟩ := mirrored x entry before
    have apart : q.id ≠ p.id := fun same => outside (by simp [same])
    have stands : (book.grid.put p cell).cellAt q = some old := by
      rw [Grid.cellAt_put, if_neg fun same => apart (by rw [same]), stood]
    obtain ⟨other, there, sameFormula, sameValue⟩ := shows.unchanged outside stands
    refine ⟨⟨q, other, formula, named', rfl, there, sameFormula.trans active,
      sameValue.trans value⟩, ?_⟩
    rw [told]
    refine sound.dependencies_of_ne unread sound' unread'' ?_
    rw [formulas_put_of_ne book.grid cell apart, spread.formulas settled]
  · -- A new entry has the value that its cell is given.
    obtain ⟨q, named', rfl, stood⟩ := Sheet.named_of_formulas has
    obtain ⟨old, stands, active⟩ := Option.bind_eq_some_iff.mp stood
    obtain ⟨other, there, sameFormula, sameValue⟩ := shows.changed named' distinct member stands
    exact ⟨⟨q, other, formula, named', rfl, there, sameFormula.trans active, sameValue⟩, read⟩

/-- A workbook whose cache loses entries mirrors the others. -/
theorem Mirrored.of_fewer {session : Session} (mirrored : Mirrored book)
    (workspace : session.workspace = book.session.workspace)
    (fewer : ∀ x entry, session.cache.entry? x = some entry →
      book.session.cache.entry? x = some entry) :
    Mirrored { book with session := session } := by
  intro x entry here
  -- An entry that is left was there before, and what is recorded is part of the workspace.
  obtain ⟨cell, told⟩ := mirrored x entry (fewer x entry here)
  exact ⟨cell, by rw [told, Session.graph, Session.graph, workspace]⟩

/-- Every history leaves in the cache what the cells show, and without any depth records nothing. -/
theorem History.mirrored (history : History maxDepth book) :
    Unread maxDepth book ∧ Mirrored book := by
  -- The induction is along the history; what is not an edit only drops entries.
  induction history with
  | start plain maxAge =>
    refine ⟨fun _ x => ?_, fun x entry here => nomatch here⟩
    simp [Session.graph, Session.start, Workspace.empty]
  | edit before on done ih => exact edit_mirrored before.sound ih.1 ih.2 on done
  | tick _ now ih => exact ⟨ih.1, ih.2.of_fewer rfl fun _ _ here => here⟩
  | invalidate _ id ih =>
    exact ⟨ih.1, ih.2.of_fewer rfl fun x _ here =>
      Cache.eq_some_of_taken ((Cache.entry?_drop _ _ x).symm.trans here)⟩
  | invalidateCascade _ id ih =>
    exact ⟨ih.1, ih.2.of_fewer rfl fun x _ here =>
      Cache.eq_some_of_taken ((Cache.entry?_invalidateCascade _ _ x).symm.trans here)⟩
  | evict _ maxAge ih =>
    exact ⟨ih.1, ih.2.of_fewer rfl fun x _ here =>
      Cache.eq_some_of_taken ((Cache.entry?_evict _ _ _ x).symm.trans here)⟩

/--
After every history of edits each entry of the cache is that of a cell that holds a formula: it has the
value that the cell shows, and the cells that the dependency graph has recorded for it.
-/
theorem cache_faithful (history : History maxDepth book) {x : CellId} {entry : CacheEntry}
    (cached : book.session.cache.entry? x = some entry) :
    (∃ (p : Position) (cell : Cell) (formula : String), p.Named ∧ p.id = x ∧
      book.grid.cellAt p = some cell ∧ cell.activeFormula? = some formula ∧
      cell.value = entry.value) ∧
    entry.dependencies = book.session.graph.dependenciesOf x := by
  obtain ⟨cell, dependencies⟩ := history.mirrored.2 x entry cached
  exact ⟨cell, dependencies⟩

/-- In the sample the formula is cached with what its cell shows, and with the number that it reads. -/
theorem cache_faithful_sample : ∃ entry,
    sample.session.cache.entry? (⟨0, 0⟩ : Position).id = some entry ∧
    (∃ (p : Position) (cell : Cell) (formula : String), p.Named ∧ p.id = (⟨0, 0⟩ : Position).id ∧
      sample.grid.cellAt p = some cell ∧ cell.activeFormula? = some formula ∧
      cell.value = entry.value) ∧
    entry.dependencies = sample.session.graph.dependenciesOf (⟨0, 0⟩ : Position).id := by
  have cached : (sample.session.cache.entry? (⟨0, 0⟩ : Position).id).isSome := by decide +kernel
  obtain ⟨entry, here⟩ := Option.isSome_iff_exists.mp cached
  exact ⟨entry, here, cache_faithful history_sample here⟩

end Workbook
end Spreadsheet
