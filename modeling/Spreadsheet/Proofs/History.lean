import Spreadsheet.Proofs.Editing
import Spreadsheet.Proofs.Reached

/-!
The histories of a workbook that is edited cell by cell, and what holds after every one of them: the
dependencies are the references of the sheet, and the values are those of an evaluation from scratch.
-/

namespace Spreadsheet

open Relation DependencyGraph Stateful

namespace Workbook

variable {maxDepth : Int} {book after : Workbook} {p : Position} {v : Value}
  {changes : List (CellId × Value)}

/-- An edit of a sound workbook that succeeds leaves it sound and changes what depends on the cell. -/
theorem edit_sound {input : Input} (sound : Sound maxDepth book) (on : p.OnSheet)
    (done : edit p.id input book = (.ok changes, after)) :
    Sound maxDepth after ∧ (0 < maxDepth → ∀ x, x ∈ changes.map Prod.fst ↔
      x = p.id ∨ TransGen (Sheet.formulas after.grid.sheet).Reads x p.id) := by
  -- An edit settles the cell and then spreads the change, as two steps with the session in between.
  obtain ⟨named, cell, v, between, rest, session, _, settles, recalculates, presents, same⟩ :=
    edit_ok on done
  have settled := settle_settled sound named settles
  -- The cell itself has its new value, and its dependents are computed from it.
  have spread := settled.spread named recalculates presents
  refine ⟨spread.sound sound named settled, fun positive x => ?_⟩
  -- What is recorded once the cell is settled is what the formulas refer to in the end.
  have reads : between.session.graph.Reads = (Sheet.formulas after.grid.sheet).Reads := by
    funext a b
    rw [← spread.formulas settled]
    exact propext (settled.exact positive a).reads_iff
  -- The report is the cell with what was computed anew, which is what reads it in the end.
  rw [same, List.map_cons, List.mem_cons, spread.keys x, reads, or_and_left]
  exact and_iff_right (em _)

/--
The workbooks that a history of edits leads to, from a sheet without formulas and a new session with
the built-in functions. Every edit succeeds; in between the clock may be set and cached values may be
dropped.
-/
inductive History (maxDepth : Int) : Workbook → Prop where
  /-- Nothing has been edited yet. -/
  | start {grid : Grid} (plain : ∀ p, Sheet.formulaAt grid.sheet p = none) (maxAge : Int) :
    History maxDepth ⟨.start (.builtin maxDepth) maxAge, grid⟩
  /-- A value or a formula is entered in a cell. -/
  | edit {book after : Workbook} {p : Position} {v : Value} {changes : List (CellId × Value)}
    (before : History maxDepth book) (on : p.OnSheet)
    (done : book.edit p.id (.value v) = (.ok changes, after)) : History maxDepth after
  /-- The clock is set. -/
  | tick {book : Workbook} (before : History maxDepth book) (now : Int) :
    History maxDepth { book with session := book.session.tick now }
  /-- The cached value of a cell is dropped. -/
  | invalidate {book : Workbook} (before : History maxDepth book) (id : String) :
    History maxDepth { book with session := book.session.invalidate id }
  /-- The cached values of a cell and of all that was computed from it are dropped. -/
  | invalidateCascade {book : Workbook} (before : History maxDepth book) (id : String) :
    History maxDepth { book with session := book.session.invalidateCascade id }
  /-- Cached values that are too old are dropped. -/
  | evict {book : Workbook} (before : History maxDepth book) (maxAge : Option Int) :
    History maxDepth { book with session := book.session.evict maxAge }

/-- Every history keeps the workbook sound. -/
theorem History.sound (history : History maxDepth book) : Sound maxDepth book := by
  -- The induction is along the history; only edits touch what soundness is about.
  induction history with
  | start plain maxAge => exact sound_start maxDepth maxAge plain
  | edit _ on done ih => exact (edit_sound ih on done).1
  | tick _ now ih => exact ih.congr rfl rfl
  | invalidate _ id ih => exact ih.congr rfl rfl
  | invalidateCascade _ id ih => exact ih.congr rfl rfl
  | evict _ maxAge ih => exact ih.congr rfl rfl

/-- An edit that succeeds goes on with a history. -/
theorem History.edit_of_isOk (before : History maxDepth book) (on : p.OnSheet)
    (succeeds : (book.edit p.id (.value v)).1.isOk = true) :
    History maxDepth (book.edit p.id (.value v)).2 := by
  -- The outcome of the edit is named before it is split, so that the run itself is not evaluated.
  have onwards : ∀ changes after, book.edit p.id (.value v) = (.ok changes, after) →
      History maxDepth after := fun _ _ done => before.edit on done
  generalize book.edit p.id (.value v) = run at succeeds onwards ⊢
  obtain ⟨outcome, after⟩ := run
  cases outcome with
  | ok changes => exact onwards changes after rfl
  | error e => cases succeeds

/-- Every history of edits is one of calls. -/
theorem History.reached (history : History maxDepth book) :
    Session.Reached book.session := by
  -- The calls of a history are among all calls, so each step leads on.
  induction history with
  | start _ maxAge => exact .start _ maxAge
  | edit _ _ done ih => exact ih.edited done
  | tick _ now ih => exact ih.tick now
  | invalidate _ id ih => exact ih.invalidate id
  | invalidateCascade _ id ih => exact ih.invalidateCascade id
  | evict _ maxAge ih => exact ih.evict maxAge

/-- A workbook in which nothing has been entered yet. -/
def opened : Workbook := ⟨.start (.builtin 100) Cache.usualAge, .empty⟩

/-- A workbook in which a formula was entered. -/
def withFormula : Workbook := (opened.edit (⟨0, 0⟩ : Position).id (.value (.text "=B1+1"))).2

/-- A workbook in which a formula was entered, and then the number that it reads. -/
def sample : Workbook := (withFormula.edit (⟨1, 0⟩ : Position).id (.value (.whole 2))).2

/-- The sample has a history. -/
theorem history_sample : History 100 sample := by
  -- The sample is one edit after the other, and both are computed to see that they succeed.
  have start : History 100 opened := .start (fun _ => rfl) _
  have first : History 100 withFormula := start.edit_of_isOk (p := ⟨0, 0⟩) (v := .text "=B1+1")
    ⟨by decide, by decide⟩ (by decide +kernel)
  exact first.edit_of_isOk (p := ⟨1, 0⟩) (v := .whole 2) ⟨by decide, by decide⟩ (by decide +kernel)

/--
After every history of edits the dependency graph is exactly the reference graph of the sheet, and a
further edit changes exactly the cell and the cells that directly or indirectly refer to it then.
-/
theorem graph_exact (positive : 0 < maxDepth) (history : History maxDepth book) :
    (∀ x, book.session.graph.dependenciesOf x =
        Std.ExtTreeSet.ofList ((Sheet.formulas book.grid.sheet).references x) ∧
      book.session.graph.formulaOf x = Sheet.formulas book.grid.sheet x) ∧
    ∀ (p : Position) (v : Value) (changes : List (CellId × Value)) (after : Workbook),
      p.OnSheet → book.edit p.id (.value v) = (.ok changes, after) → ∀ x,
        x ∈ changes.map Prod.fst ↔
          x = p.id ∨ TransGen (Sheet.formulas after.grid.sheet).Reads x p.id := by
  have sound := history.sound
  -- Both parts are what soundness says of the graph, the second one after the edit.
  refine ⟨fun x => ?_, fun p v changes after on done => (edit_sound sound on done).2 positive⟩
  exact ⟨(sound.exact positive x).dependencies, (sound.exact positive x).formula⟩

/-- In the sample the formula is recorded as reading the number. -/
theorem graph_exact_sample : 0 < (100 : Int) ∧
    sample.session.graph.dependenciesOf (⟨0, 0⟩ : Position).id = Std.ExtTreeSet.ofList
      ((Sheet.formulas sample.grid.sheet).references (⟨0, 0⟩ : Position).id) ∧
    sample.session.graph.formulaOf (⟨0, 0⟩ : Position).id =
      Sheet.formulas sample.grid.sheet (⟨0, 0⟩ : Position).id :=
  ⟨by decide, (graph_exact (by decide) history_sample).1 _⟩

/--
After every history of edits each formula cell stores what a new evaluator gives for its formula: the
value if there is one, and a text that stands for a failure if the formula fails.
-/
theorem stored_fresh (history : History maxDepth book) {cell : Cell} {formula : String}
    (here : book.grid.cellAt p = some cell) (active : cell.activeFormula? = some formula) :
    Fresh maxDepth book.grid.sheet p.id formula cell.value := by
  -- A sound workbook stores for each formula what its meaning is, and this is what a new run gives.
  have sound := history.sound
  have has := Grid.formulaAt_of_cellAt here active
  exact (sound.stored p cell formula here active).fresh (sound.named p formula has) has

/-- In the sample the first cell stores what a new evaluator gives for its formula. -/
theorem stored_fresh_sample : ∃ cell, sample.grid.cellAt ⟨0, 0⟩ = some cell ∧
    cell.activeFormula? = some "=B1+1" ∧
    Fresh 100 sample.grid.sheet (⟨0, 0⟩ : Position).id "=B1+1" cell.value := by
  -- The formula of the cell is looked up by computation, and the cell is the one that has it.
  have formula : (sample.grid.cellAt ⟨0, 0⟩).bind Cell.activeFormula? = some "=B1+1" := by
    decide +kernel
  obtain ⟨cell, here, active⟩ := Option.bind_eq_some_iff.mp formula
  exact ⟨cell, here, active, stored_fresh history_sample here active⟩

end Workbook
end Spreadsheet
