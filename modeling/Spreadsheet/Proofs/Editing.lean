import Spreadsheet.Proofs.UpToDate
import Spreadsheet.Proofs.Workbook

/-!
Workbooks along a history of edits: the recorded dependencies are exactly the references of the sheet,
an edit changes exactly the cells that depend on it, and every value shown is up to date.
-/

namespace Spreadsheet

open Relation DependencyGraph Session

namespace Workbook

variable {maxDepth : Int} {book between after : Workbook} {grid : Grid} {p : Position}
  {input : Input} {cell : Cell} {v : Value} {changes rest : List (CellId × Value)}

/-- A workbook in which records and values agree with the sheet. -/
structure Sound (maxDepth : Int) (book : Workbook) : Prop where
  ready : book.Ready maxDepth
  /-- Without any depth nothing is recorded, and otherwise what the formulas say. -/
  exact : 0 < maxDepth → ∀ x, Current (Sheet.formulas book.grid.sheet) book.session.graph x
  named : ∀ p formula, Sheet.formulaAt book.grid.sheet p = some formula → p.Named
  stored : ∀ p cell formula, book.grid.cellAt p = some cell → cell.activeFormula? = some formula →
    UpToDate maxDepth book.grid.sheet p formula cell.value

/-- A new workbook without formulas is sound. -/
theorem sound_start (maxDepth maxAge : Int)
    (plain : ∀ p, Sheet.formulaAt grid.sheet p = none) :
    Sound maxDepth ⟨.start (.builtin maxDepth) maxAge, grid⟩ := by
  -- An id with a formula would belong to a cell with one.
  have nothing : ∀ x, Sheet.formulas grid.sheet x = none := by
    intro x
    cases has : Sheet.formulas grid.sheet x with
    | none => rfl
    | some formula =>
      obtain ⟨p, _, _, has⟩ := Sheet.named_of_formulas has
      cases (plain p).symm.trans has
  refine ⟨ready_start maxDepth maxAge, fun _ x => ?_, fun p formula has => ?_,
    fun p cell formula here active => ?_⟩
  · -- Nothing is referred to, and nothing is recorded.
    refine ⟨?_, ?_⟩
    · simp [Session.graph, Session.start, Workspace.empty, Formulas.references_of_none (nothing x)]
    · simp [Session.graph, Session.start, Workspace.empty, nothing x]
  · cases (plain p).symm.trans has
  · have has := Grid.formulaAt_of_cellAt here active
    cases (plain p).symm.trans has

/-- A workbook stays sound if only the cache and the clock of its session change. -/
theorem Sound.congr {session : Session} (sound : Sound maxDepth book)
    (evaluator : session.evaluator = book.session.evaluator)
    (workspace : session.workspace = book.session.workspace) :
    Sound maxDepth { book with session := session } := by
  refine ⟨sound.ready.congr evaluator workspace, fun positive x => ?_, sound.named, sound.stored⟩
  have current := sound.exact positive x
  -- The graph is part of the workspace.
  rw [Session.graph] at current
  rwa [Session.graph, workspace]

/-- What becomes of a workbook when the cell that was entered is settled. -/
structure Settled (maxDepth : Int) (p : Position) (cell : Cell) (grid : Grid) (v : Value)
    (between : Workbook) : Prop where
  ready : between.Ready maxDepth
  exact : 0 < maxDepth → ∀ x, Current (Sheet.formulas grid.sheet) between.session.graph x
  shows : Grid.Shows [(p.id, v)] grid between.grid
  seen : ∀ q, Sheet.seen between.grid.sheet q = Sheet.seen grid.sheet q
  upToDate : ∀ formula, cell.activeFormula? = some formula →
    UpToDate maxDepth grid.sheet p formula v

/-- A cell that is put changes no formula but its own. -/
theorem formulaAt_put_of_ne (grid : Grid) (cell : Cell) {q : Position} (apart : q ≠ p) :
    Sheet.formulaAt (grid.put p cell).sheet q = Sheet.formulaAt grid.sheet q := by
  -- The sheet looks cells up in the grid.
  show ((grid.put p cell).cellAt q).bind _ = (grid.cellAt q).bind _
  simp [apart]

/-- A cell that is put changes what is seen at no other position. -/
theorem seen_put_of_ne (grid : Grid) (cell : Cell) {q : Position} (apart : q ≠ p) :
    Sheet.seen (grid.put p cell).sheet q = Sheet.seen grid.sheet q := by
  have same : (grid.put p cell).sheet q = grid.sheet q := by
    show (grid.put p cell).cellAt q = grid.cellAt q
    simp [apart]
  rw [Sheet.seen, Sheet.seen, same]

/-- A change of a position with a name tells the position and the value. -/
theorem eq_of_entry_eq {q : Position} {w : Value} (named : p.Named) (named' : q.Named)
    (same : (q.id, w) = (p.id, v)) : q = p ∧ w = v :=
  -- An id belongs to a single cell of the sheet.
  ⟨Position.id_inj named'.onSheet named.onSheet (Prod.mk.inj same).1, (Prod.mk.inj same).2⟩

/-- What is known about a cell that gets a formula, with all other records exact, is referred to. -/
theorem reads_of_known {before formulas : Formulas} {graph : DependencyGraph} {id : CellId}
    (exact : ∀ x, Current before graph x) (others : ∀ x, x ≠ id → before x = formulas x) (x y : CellId)
    (known : Known formulas graph id x y) : formulas.Reads x y := by
  -- The record of another cell is what its formula refers to, before as well as after.
  rcases known with refers | ⟨apart, recorded⟩
  · exact refers
  · have refers := (exact x).reads_iff.mp recorded
    rwa [Formulas.Reads, Formulas.references_congr (others x apart)] at refers

/-- A cell that is put changes no formula by any other id. -/
theorem formulas_put_of_ne (grid : Grid) (cell : Cell) {x : CellId} (apart : x ≠ p.id) :
    Sheet.formulas grid.sheet x = Sheet.formulas (grid.put p cell).sheet x :=
  Sheet.formulas_congr_of_ne (fun _ apart => (formulaAt_put_of_ne grid cell apart).symm) apart

/-- Settling a formula makes the records exact again and its value up to date. -/
theorem settled_of_formula {formula : String} (sound : Sound maxDepth book) (named : p.Named)
    (active : cell.activeFormula? = some formula)
    (done : settle p.id cell { book with grid := book.grid.put p cell } = (.ok v, between)) :
    Settled maxDepth p cell (book.grid.put p cell) v between := by
  have here := (formulaAt_put book.grid p cell).trans active
  obtain ⟨evaluates, shows⟩ := settle_formula_ok named active done
  obtain ⟨refreshed, current, yields⟩ := evaluateOrError_ok sound.ready named here evaluates
  have others : ∀ x, x ≠ p.id →
      Sheet.formulas book.grid.sheet x = Sheet.formulas (book.grid.put p cell).sheet x :=
    fun _ => formulas_put_of_ne book.grid cell
  refine ⟨refreshed.ready, fun positive => ?_, shows, fun q => ?_, fun formula' active' => ?_⟩
  · -- The evaluation records what the cell reads now; the other records were exact already.
    exact refreshed.refreshes.exact (sound.exact positive) others (current positive)
  · -- The cell shows a new value, but it is its formula that is seen.
    refine shows.seen (fun r w named' member without => ?_) q
    obtain ⟨rfl, -⟩ := eq_of_entry_eq named named' (List.mem_singleton.mp member)
    cases here.symm.trans without
  · cases active.symm.trans active'
    rcases le_or_gt maxDepth 0 with shallow | positive
    · exact .of_yields_shallow shallow yields
    · exact .of_yields (reads_of_known (sound.exact positive) others) yields

/-- Settling a plain value makes the records exact again. -/
theorem settled_of_value (sound : Sound maxDepth book) (named : p.Named)
    (plain : cell.activeFormula? = none)
    (done : settle p.id cell { book with grid := book.grid.put p cell } = (.ok v, between)) :
    Settled maxDepth p cell (book.grid.put p cell) v between := by
  have here := (formulaAt_put book.grid p cell).trans plain
  obtain ⟨rfl, rfl⟩ := settle_value_ok plain done
  have without := (Sheet.formulas_id (book.grid.put p cell).sheet named).trans here
  refine ⟨forget_ready sound.ready p.id, fun positive => ?_, .put book.grid named cell,
    fun _ => rfl, fun formula active => ?_⟩
  · -- The cell is forgotten, and no other formula has changed.
    show ∀ x, Current _ (book.session.graph.remove (Text.upper p.id)) x
    rw [Position.upper_id named.onSheet]
    exact (refreshes_remove book.session.graph without).exact (sound.exact positive)
      (fun _ => formulas_put_of_ne book.grid cell) (current_remove _ without)
  · cases plain.symm.trans active

/-- Settling a cell that was entered makes the records exact again and its value up to date. -/
theorem settle_settled (sound : Sound maxDepth book) (named : p.Named)
    (done : settle p.id cell { book with grid := book.grid.put p cell } = (.ok v, between)) :
    Settled maxDepth p cell (book.grid.put p cell) v between := by
  -- The cell is evaluated if it holds a formula and forgotten if it does not.
  cases active : cell.activeFormula? with
  | some formula => exact settled_of_formula sound named active done
  | none => exact settled_of_value sound named active done

/-- Where the cell that was entered is settled, the formulas are those of the grid. -/
theorem Settled.formulas (settled : Settled maxDepth p cell grid v between) :
    Sheet.formulas between.grid.sheet = Sheet.formulas grid.sheet :=
  Sheet.formulas_congr settled.shows.formulaAt

/-- A value that does not depend on the only cell that changes stays up to date. -/
theorem upToDate_of_unreached {sheet later : Sheet} {q : Position} {formula : String}
    (named : p.Named) (named' : q.Named) (apart : q ≠ p)
    (has : Sheet.formulaAt sheet q = some formula)
    (others : ∀ r, r ≠ p → Sheet.seen sheet r = Sheet.seen later r)
    (unreached : ¬ TransGen (Sheet.formulas later).Reads q.id p.id)
    (old : UpToDate maxDepth sheet q formula v) : UpToDate maxDepth later q formula v := by
  have has' := (Sheet.formulaAt_congr (others q apart)).symm.trans has
  refine old.congr named' has has' fun r _ reached => others r ?_
  rintro rfl
  -- A chain of references to the cell would still be there.
  refine unreached (transGen_of_outside (fun x y outside reads => ?_) reached fun same => ?_)
  · have same := Sheet.formulas_congr_of_ne
      (fun q apart => Sheet.formulaAt_congr (others q apart)) outside
    rwa [Formulas.Reads, Formulas.references_congr same] at reads
  · exact apart (Position.id_inj named'.onSheet named.onSheet same)

/-- What becomes of a settled workbook when all that depends on the cell is computed and shown. -/
structure Spread (maxDepth : Int) (p : Position) (grid : Grid) (between : Workbook)
    (rest : List (CellId × Value)) (after : Workbook) : Prop where
  refreshed : Refreshed maxDepth (Sheet.formulas grid.sheet) between.session after.session
  /-- The cells that change are those that are recorded as reading the cell, directly or not. -/
  keys : ∀ x, x ∈ rest.map Prod.fst ↔ x ≠ p.id ∧ TransGen between.session.graph.Reads x p.id
  shows : Grid.Shows rest between.grid after.grid
  seen : ∀ q, Sheet.seen after.grid.sheet q = Sheet.seen between.grid.sheet q
  values : ∀ (q : Position) w formula, q.Named → (q.id, w) ∈ rest →
    Sheet.formulaAt between.grid.sheet q = some formula →
      Yields (Sheet.formulas grid.sheet) between.session.graph
        (meaningOf maxDepth between.grid.sheet q.id formula) q.id w

/-- Computing and showing what depends on a settled cell gives each dependent its value. -/
theorem Settled.spread {session : Session} {u : Unit} (named : p.Named)
    (settled : Settled maxDepth p cell grid v between)
    (recalculates : recalculateDependents between.grid.sheet p.id between.session =
      (.ok rest, session))
    (presents : presentAll rest { between with session := session } = (.ok u, after)) :
    Spread maxDepth p grid between rest after := by
  obtain ⟨refreshed, keys, entries⟩ :=
    recalculateDependents_ok settled.ready named.onSheet recalculates
  rw [settled.formulas] at refreshed
  -- The entry of a cell tells of that cell, as no other one has its id.
  have revalued : ∀ (q : Position) w, q.Named → (q.id, w) ∈ rest →
      Revalued maxDepth between.grid.sheet between.session.graph q w := by
    intro q w named' member
    obtain ⟨r, named'', same, revalued⟩ := entries _ member
    cases Position.id_inj named''.onSheet named'.onSheet same
    exact revalued
  -- Showing the values leaves the session alone.
  obtain ⟨same, shows⟩ := presentAll_ok presents fun entry member => by
    obtain ⟨q, named', same, _⟩ := entries entry member
    exact ⟨q, named', same⟩
  refine ⟨same ▸ refreshed, fun x => ?_, shows, shows.seen fun q w named' member without => ?_,
    fun q w formula named' member has => ?_⟩
  · rw [keys, mem_affected settled.ready named.onSheet]
  · exact (revalued q w named' member).ofValue without
  · exact settled.formulas ▸ (revalued q w named' member).ofFormula formula has

/-- The value that a cell is given by its formula is up to date in the end. -/
theorem Spread.upToDate {q : Position} {w : Value} {formula : String} (named : q.Named)
    (settled : Settled maxDepth p cell grid v between)
    (spread : Spread maxDepth p grid between rest after) (member : (q.id, w) ∈ rest)
    (has : Sheet.formulaAt after.grid.sheet q = some formula) :
    UpToDate maxDepth after.grid.sheet q formula w := by
  have has' := (Sheet.formulaAt_congr (spread.seen q)).symm.trans has
  have yields := spread.values q w formula named member has'
  rw [← settled.formulas] at yields
  -- The records were exact when the values were computed, and nothing else is seen now.
  have current : UpToDate maxDepth between.grid.sheet q formula w := by
    rcases le_or_gt maxDepth 0 with shallow | positive
    · exact .of_yields_shallow shallow yields
    · refine .of_yields (reads_of_known (fun x => ?_) fun _ _ => rfl) yields
      exact settled.formulas ▸ settled.exact positive x
  exact current.congr named has' has fun r _ _ => (spread.seen r).symm

/-- Formulas see what they saw when the cell was entered. -/
theorem Spread.seen_put (settled : Settled maxDepth p cell grid v between)
    (spread : Spread maxDepth p grid between rest after) (q : Position) :
    Sheet.seen grid.sheet q = Sheet.seen after.grid.sheet q :=
  ((spread.seen q).trans (settled.seen q)).symm

/-- The formulas are those that stood on the sheet when the cell was entered. -/
theorem Spread.formulaAt (settled : Settled maxDepth p cell grid v between)
    (spread : Spread maxDepth p grid between rest after) (q : Position) :
    Sheet.formulaAt grid.sheet q = Sheet.formulaAt after.grid.sheet q :=
  Sheet.formulaAt_congr (spread.seen_put settled q)

/-- The formulas by their ids are those when the cell was entered, too. -/
theorem Spread.formulas (settled : Settled maxDepth p cell grid v between)
    (spread : Spread maxDepth p grid between rest after) :
    Sheet.formulas grid.sheet = Sheet.formulas after.grid.sheet :=
  Sheet.formulas_congr (spread.formulaAt settled)

/-- The value of a cell that an edit does not reach is still up to date in the end. -/
theorem Spread.unaffected (sound : Sound maxDepth book) (named : p.Named)
    (settled : Settled maxDepth p cell (book.grid.put p cell) v between)
    (spread : Spread maxDepth p (book.grid.put p cell) between rest after) {q : Position} {old : Cell}
    {formula : String} (named' : q.Named) (here : book.grid.cellAt q = some old)
    (active : old.activeFormula? = some formula) (apart : q ≠ p)
    (unchanged : q.id ∉ rest.map Prod.fst) :
    UpToDate maxDepth after.grid.sheet q formula old.value := by
  have before := sound.stored q old formula here active
  -- Without any depth nothing is recorded, but then every value is the text of the same failure.
  rcases le_or_gt maxDepth 0 with shallow | positive
  · exact before.of_shallow shallow
  · have has := Grid.formulaAt_of_cellAt here active
    refine upToDate_of_unreached named named' apart has (fun r outside => ?_) (fun reached => ?_)
      before
    · exact (seen_put_of_ne book.grid cell outside).symm.trans (spread.seen_put settled r)
    · -- A cell that reads the edited one is recorded as doing so, and its value changes.
      rw [← spread.formulas settled] at reached
      refine unchanged ((spread.keys q.id).mpr ⟨fun same => apart ?_, ?_⟩)
      · exact Position.id_inj named'.onSheet named.onSheet same
      · exact TransGen.mono (fun x y => (settled.exact positive x).reads_iff.mpr) _ _ reached

/-- Every formula stands at a position with a name, as before the edit. -/
theorem Spread.named (sound : Sound maxDepth book) (named : p.Named)
    (settled : Settled maxDepth p cell (book.grid.put p cell) v between)
    (spread : Spread maxDepth p (book.grid.put p cell) between rest after) {q : Position}
    {formula : String} (has : Sheet.formulaAt after.grid.sheet q = some formula) : q.Named := by
  -- The edited cell has a name, and every other formula stood there before the edit.
  by_cases same : q = p
  · exact same ▸ named
  · have before := (spread.formulaAt settled q).trans has
    exact sound.named q formula ((formulaAt_put_of_ne book.grid cell same).symm.trans before)

/-- Every cell with a formula holds a value that is up to date. -/
theorem Spread.stored (sound : Sound maxDepth book) (named : p.Named)
    (settled : Settled maxDepth p cell (book.grid.put p cell) v between)
    (spread : Spread maxDepth p (book.grid.put p cell) between rest after) {q : Position}
    {shown : Cell} {formula : String} (there : after.grid.cellAt q = some shown)
    (active : shown.activeFormula? = some formula) :
    UpToDate maxDepth after.grid.sheet q formula shown.value := by
  have has := Grid.formulaAt_of_cellAt there active
  have named' := spread.named sound named settled has
  -- The cell was there before its value was computed, with the same formula.
  have shows := settled.shows.cons spread.shows
  cases here : (book.grid.put p cell).cellAt q with
  | none => cases (shows.absent q here).symm.trans there
  | some before =>
    obtain ⟨other, there', sameFormula, value⟩ := shows.shown q before here
    cases there.symm.trans there'
    rcases value with ⟨sameValue, unchanged⟩ | ⟨-, member⟩
    · -- A cell that the edit does not reach shows what it did.
      have outside := unchanged named'
      rw [List.map_cons, List.mem_cons, not_or] at outside
      have apart : q ≠ p := fun same => outside.1 (by rw [same])
      rw [Grid.cellAt_put, if_neg apart] at here
      rw [sameValue]
      refine spread.unaffected sound named settled named' here ?_ apart outside.2
      rw [← active, Cell.activeFormula?, Cell.activeFormula?, sameFormula]
    · -- A cell that changes is the edited one or was computed anew because of it.
      rcases List.mem_cons.mp member with edited | dependent
      · obtain ⟨rfl, sameValue⟩ := eq_of_entry_eq named named' edited
        have has' := (spread.formulaAt settled q).trans has
        have own := settled.upToDate formula ((formulaAt_put book.grid q cell).symm.trans has')
        rw [sameValue]
        exact own.congr named has' has fun r _ _ => spread.seen_put settled r
      · exact spread.upToDate named' settled dependent has

/-- Everything is sound again when all that depends on the edited cell is computed and shown. -/
theorem Spread.sound (sound : Sound maxDepth book) (named : p.Named)
    (settled : Settled maxDepth p cell (book.grid.put p cell) v between)
    (spread : Spread maxDepth p (book.grid.put p cell) between rest after) :
    Sound maxDepth after := by
  refine ⟨spread.refreshed.ready, fun positive x => ?_,
    fun q formula => spread.named sound named settled,
    fun q shown formula => spread.stored sound named settled⟩
  -- Records that were exact when the cell was settled have only been refreshed since then.
  exact spread.formulas settled ▸ spread.refreshed.refreshes.current (settled.exact positive x)

end Workbook
end Spreadsheet
