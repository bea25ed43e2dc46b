import Spreadsheet.Proofs.UpToDate
import Spreadsheet.Proofs.Workbook

/-!
Recalculation in a workbook whose sheet is also written to directly, so that the session may have
recorded what cells no longer refer to: each dependent gets its value of now, or reports a cycle that
goes along such a record.
-/

namespace Spreadsheet

open Relation DependencyGraph Stateful

namespace Workbook

variable {maxDepth : Int} {book : Workbook} {p : Position}

/--
The workbooks that any calls on cells of the sheet lead to, whether they succeed or fail: evaluations,
edits, recalculations, and direct changes of the sheet, of which the session is not told.
-/
inductive Worked (maxDepth : Int) : Workbook → Prop where
  /-- A new session, on any sheet. -/
  | start (grid : Grid) (maxAge : Int) :
    Worked maxDepth ⟨.start (.builtin maxDepth) maxAge, grid⟩
  /-- A formula is evaluated for a cell. -/
  | evaluate {book : Workbook} {p : Position} (before : Worked maxDepth book) (on : p.OnSheet)
    (formula : String) :
    Worked maxDepth (inSession (fun sheet => Session.evaluate sheet p.id formula) book).2
  /-- A formula is evaluated for a cell, and a failure of the formula is caught. -/
  | evaluateOrError {book : Workbook} {p : Position} (before : Worked maxDepth book)
    (on : p.OnSheet) (formula : String) :
    Worked maxDepth (inSession (fun sheet => Session.evaluateOrError sheet p.id formula) book).2
  /-- A cell is edited. -/
  | edit {book : Workbook} {p : Position} (before : Worked maxDepth book) (on : p.OnSheet)
    (input : Input) : Worked maxDepth (book.edit p.id input).2
  /-- What depends on a cell is computed anew. -/
  | recalculate {book : Workbook} {p : Position} (before : Worked maxDepth book) (on : p.OnSheet) :
    Worked maxDepth (inSession (fun sheet => Session.recalculateDependents sheet p.id) book).2
  /-- Something is entered in the sheet directly. -/
  | set {book : Workbook} {p : Position} (before : Worked maxDepth book) (on : p.OnSheet)
    (input : Input) : Worked maxDepth (book.enter p.id input).2
  /-- A cell of the sheet is removed directly. -/
  | clear {book : Workbook} {p : Position} {grid : Grid} (before : Worked maxDepth book)
    (on : p.OnSheet) (done : book.grid.clear p.id = .ok grid) :
    Worked maxDepth { book with grid := grid }

/-- Whatever was called, the session is ready for the next step. -/
theorem Worked.ready (worked : Worked maxDepth book) : book.Ready maxDepth := by
  -- The induction is along the calls; what only touches the sheet leaves the session alone.
  induction worked with
  | start grid maxAge => exact Session.ready_start maxDepth maxAge
  | evaluate _ on formula ih =>
    exact inSession_keeps (fun sheet => Session.evaluate_keeps sheet on formula) _ ih
  | evaluateOrError _ on formula ih =>
    exact inSession_keeps (fun sheet => Session.evaluateOrError_keeps sheet on formula) _ ih
  | edit _ on input ih => exact edit_keeps on input _ ih
  | recalculate _ on ih =>
    exact inSession_keeps (fun sheet => Session.recalculateDependents_keeps sheet on) _ ih
  | set _ on input ih => exact enter_keeps _ input _ ih
  | clear _ on done ih => exact ih

/-- A cycle behind a cell that leads along what another cell has recorded and no longer refers to. -/
structure Outdated (formulas : Formulas) (graph : DependencyGraph) (id : CellId)
    (path : List CellId) : Prop where
  cycle : IsCycle (Known formulas graph id) path
  reached : ∃ x, path.head? = some x ∧ ReflTransGen (Known formulas graph id) id x
  /-- The link that is recorded only. -/
  link : ∃ a b, [a, b] <:+: path ∧ a ≠ id ∧ graph.Reads a b ∧ ¬ formulas.Reads a b

/--
After any calls, on a sheet whose formulas contain no cycle of references: each dependent with a
formula gets what a new evaluator gives for it, the value or a text that stands for its failure,
unless it reports a cycle along what another cell has recorded and no longer refers to.
-/
theorem recalculated_fresh (worked : Worked maxDepth book) (on : p.OnSheet)
    (acyclic : ∀ x, ¬ TransGen (Sheet.formulas book.grid.sheet).Reads x x)
    {changes : List (CellId × Value)} {after : Session}
    (done : Session.recalculateDependents book.grid.sheet p.id book.session = (.ok changes, after))
    {d : CellId} {v : Value} {formula : String} (member : (d, v) ∈ changes)
    (has : Sheet.formulas book.grid.sheet d = some formula) :
    Fresh maxDepth book.grid.sheet d formula v ∨
      ∃ path, v = .text (FormulaError.circular path).shown ∧
        Outdated (Sheet.formulas book.grid.sheet) book.session.graph d path := by
  -- The entry of the cell tells with what it was computed, and under which records.
  obtain ⟨-, -, entries⟩ := Session.recalculateDependents_ok worked.ready on done
  obtain ⟨q, named, same, revalued⟩ := entries _ member
  dsimp only at same revalued
  subst same
  rw [Sheet.formulas_id _ named] at has
  -- Without a cycle a new evaluator gives what the formula means.
  have fresh : _ = Session.meaningOf maxDepth book.grid.sheet q.id formula :=
    evaluate_empty_of_acyclic named has fun ⟨x, _, around⟩ => acyclic x around
  -- A recalculated cell has its meaning, a text for it, or a reported cycle.
  cases revalued.ofFormula formula has with
  | value meant _ => exact .inl (.of_ok (fresh.trans meant))
  | failure meant shows => exact .inl (.of_error (fresh.trans meant) shows)
  | cycle reported shows =>
    obtain ⟨path, rfl, cycle, first⟩ := reported
    -- Were all links of the cycle references, the sheet would contain a cycle.
    have other : ¬ path.IsChain (Sheet.formulas book.grid.sheet).Reads := by
      intro linked
      obtain ⟨x, _, around⟩ := (IsCycle.mk linked cycle.closed).around
      exact acyclic x around
    obtain ⟨a, b, inside, known, missing⟩ := exists_link_of_not_isChain cycle.linked other
    have recorded := known.resolve_left missing
    exact .inr ⟨path, shows, cycle, first, a, b, inside, recorded.1, recorded.2, missing⟩

/-- Every formula of a grid has a value by itself. -/
def allValued (maxDepth : Int) (grid : Grid) : Bool :=
  -- Each is evaluated by a new evaluator.
  grid.cells.rows.all fun (p, cell) =>
    match cell.activeFormula? with
    | some formula =>
      ((Evaluator.builtin maxDepth).evaluate grid.sheet p.id formula .empty).1.isOk
    | none => true

/-- A grid whose formulas all have values contains no cycle of references. -/
theorem acyclic_of_allValued (maxDepth : Int) {grid : Grid}
    (valued : allValued maxDepth grid = true) (x : CellId) :
    ¬ TransGen (Sheet.formulas grid.sheet).Reads x x := by
  -- A cycle begins with a cell that has a formula.
  intro around
  obtain ⟨y, reads, _⟩ := TransGen.head'_iff.mp around
  obtain ⟨formula, has⟩ := reads.has_formula
  obtain ⟨p, named, rfl, here⟩ := Sheet.named_of_formulas has
  obtain ⟨cell, found, active⟩ := Option.bind_eq_some_iff.mp here
  -- The formula stands in one of the rows, and its value shows that chains from it end.
  have member : (p, cell) ∈ grid.cells.rows := by
    obtain ⟨before, after, rows, _⟩ := List.lookup_eq_some_iff.mp found
    exact rows ▸ List.mem_append_right before List.mem_cons_self
  have row := List.all_eq_true.mp valued _ member
  simp only [active] at row
  have evaluates := evaluates_empty maxDepth named here
  cases outcome : ((Evaluator.builtin maxDepth).evaluate grid.sheet p.id formula .empty).1 with
  | ok v => exact (evaluates.terminates v outcome).no_cycle ⟨p.id, .refl, around⟩
  | error e =>
    rw [outcome] at row
    cases row

/-- A sheet in which two cells refer to a third one, and one of them to a fourth one as well. -/
def linked : Grid :=
  -- The third cell and the fourth one hold a number.
  (((Grid.empty.put ⟨0, 0⟩ ⟨.blank, some "=B1", .text⟩).put ⟨1, 0⟩ ⟨.whole 1, none, .number⟩).put
    ⟨23, 0⟩ ⟨.whole 1, none, .number⟩).put ⟨3, 0⟩ ⟨.blank, some "=B1+X1", .text⟩

/-- A session on the sheet in which its first formula has been evaluated. -/
def begun : Workbook :=
  (inSession (fun sheet => Session.evaluate sheet (⟨0, 0⟩ : Position).id "=B1")
    ⟨.start (.builtin 100) Cache.usualAge, linked⟩).2

/-- The second formula has been evaluated too. -/
def recorded : Workbook :=
  (inSession (fun sheet => Session.evaluate sheet (⟨3, 0⟩ : Position).id "=B1+X1") begun).2

/-- The first cell has become a number, which the session is not told. -/
def replaced : Workbook := (recorded.enter (⟨0, 0⟩ : Position).id (.value (.whole 5))).2

/-- The cell that it referred to refers to it instead, which the session is not told either. -/
def turned : Workbook := (replaced.enter (⟨1, 0⟩ : Position).id (.value (.text "=A1"))).2

/-- The calls that lead there are calls on cells of the sheet. -/
theorem worked_turned : Worked 100 turned := by
  -- Two evaluations first, and then two changes of the sheet.
  have start : Worked 100 ⟨.start (.builtin 100) Cache.usualAge, linked⟩ := .start linked _
  have first : Worked 100 begun := start.evaluate (p := ⟨0, 0⟩) ⟨by decide, by decide⟩ "=B1"
  have second : Worked 100 recorded :=
    first.evaluate (p := ⟨3, 0⟩) ⟨by decide, by decide⟩ "=B1+X1"
  have number : Worked 100 replaced := second.set (p := ⟨0, 0⟩) ⟨by decide, by decide⟩ _
  exact number.set (p := ⟨1, 0⟩) ⟨by decide, by decide⟩ _

/-- No cycle of references is left there. -/
theorem acyclic_turned (x : CellId) : ¬ TransGen (Sheet.formulas turned.grid.sheet).Reads x x :=
  acyclic_of_allValued 100 (by decide +kernel) x

/-- The second formula is still there. -/
theorem formulas_turned :
    Sheet.formulas turned.grid.sheet (⟨3, 0⟩ : Position).id = some "=B1+X1" := by
  decide +kernel

/-- What a computation gives as it is shown, nothing if it fails. -/
def described (outcome : Except Failure Value) : List Char :=
  -- Failures are not told apart.
  match outcome with
  | .ok v => v.plain
  | .error _ => []

/-- The only value that a recalculation gives, and the cell that it belongs to. -/
def onlyChange (outcome : Except Failure (List (CellId × Value))) : Option (CellId × List Char) :=
  -- Several values are none.
  match outcome with
  | .ok [(id, v)] => some (id, v.plain)
  | _ => none

/-- Recalculation gives the second formula a text about a cycle that is there no more. -/
theorem recalculates_turned : ∃ after v,
    Session.recalculateDependents turned.grid.sheet (⟨23, 0⟩ : Position).id turned.session =
      (.ok [((⟨3, 0⟩ : Position).id, v)], after) ∧
    v.plain = "#ERROR: Circular reference detected: B1 -> A1 -> B1".toList := by
  have shows : onlyChange (Session.recalculateDependents turned.grid.sheet
      (⟨23, 0⟩ : Position).id turned.session).1 = some ((⟨3, 0⟩ : Position).id,
        "#ERROR: Circular reference detected: B1 -> A1 -> B1".toList) := by
    decide +kernel
  -- The run is named before it is split, so that it is not evaluated again.
  generalize Session.recalculateDependents turned.grid.sheet (⟨23, 0⟩ : Position).id turned.session =
    run at shows ⊢
  obtain ⟨outcome, after⟩ := run
  unfold onlyChange at shows
  split at shows
  · rename_i id v same
    obtain ⟨rfl, text⟩ := Prod.mk.inj (Option.some.inj shows)
    exact ⟨after, v, by rw [← same], text⟩
  · cases shows

/--
A dependent reports a cycle along a record of what a cell no longer refers to, though no cycle of
references is left and a new evaluator gives a value.
-/
theorem recalculation_outdated : Worked 100 turned ∧
    (∀ x, ¬ TransGen (Sheet.formulas turned.grid.sheet).Reads x x) ∧
    Sheet.formulas turned.grid.sheet (⟨3, 0⟩ : Position).id = some "=B1+X1" ∧
    ∃ after v w,
      Session.recalculateDependents turned.grid.sheet (⟨23, 0⟩ : Position).id turned.session =
        (.ok [((⟨3, 0⟩ : Position).id, v)], after) ∧
      ((Evaluator.builtin 100).evaluate turned.grid.sheet (⟨3, 0⟩ : Position).id "=B1+X1"
        .empty).1 = .ok w ∧ v ≠ w := by
  refine ⟨worked_turned, acyclic_turned, formulas_turned, ?_⟩
  obtain ⟨after, v, run, text⟩ := recalculates_turned
  -- A new evaluator gives the sum of the two numbers.
  have fresh : described ((Evaluator.builtin 100).evaluate turned.grid.sheet
      (⟨3, 0⟩ : Position).id "=B1+X1" .empty).1 = ['6'] := by
    decide +kernel
  cases outcome : ((Evaluator.builtin 100).evaluate turned.grid.sheet (⟨3, 0⟩ : Position).id
      "=B1+X1" .empty).1 with
  | error e =>
    rw [outcome] at fresh
    cases fresh
  | ok w =>
    rw [outcome] at fresh
    refine ⟨after, v, w, run, rfl, fun same => ?_⟩
    -- The text and the number are shown differently.
    subst same
    rw [described, text] at fresh
    exact absurd fresh (by decide)

/-- After these calls the law of recalculation tells what the dependent shows. -/
theorem recalculated_fresh_turned : ∃ after v,
    Session.recalculateDependents turned.grid.sheet (⟨23, 0⟩ : Position).id turned.session =
      (.ok [((⟨3, 0⟩ : Position).id, v)], after) ∧
    (Fresh 100 turned.grid.sheet (⟨3, 0⟩ : Position).id "=B1+X1" v ∨
      ∃ path, v = .text (FormulaError.circular path).shown ∧
        Outdated (Sheet.formulas turned.grid.sheet) turned.session.graph
          (⟨3, 0⟩ : Position).id path) := by
  obtain ⟨after, v, run, -⟩ := recalculates_turned
  exact ⟨after, v, run, recalculated_fresh worked_turned (p := ⟨23, 0⟩) ⟨by decide, by decide⟩
    acyclic_turned run (List.mem_singleton.mpr rfl) formulas_turned⟩

end Workbook
end Spreadsheet
