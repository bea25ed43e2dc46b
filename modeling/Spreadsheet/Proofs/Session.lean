import Spreadsheet.Proofs.Calls
import Spreadsheet.Proofs.Evaluator.Within

/-!
What the steps of a session do to what it has recorded, and what the values that they give have to do
with the formulas of the sheet.
-/

namespace Spreadsheet

open Relation DependencyGraph Stateful

namespace Session

variable {maxDepth : Int} {session after : Session} {sheet : Sheet} {formulas : Formulas}
  {p : Position} {formula : String} {v : Value}

/-- A session with the built-in functions between two steps: nothing is pending. -/
structure Ready (maxDepth : Int) (session : Session) : Prop where
  evaluator : session.evaluator = .builtin maxDepth
  idle : session.workspace.pending = []
  transposed : session.graph.Transposed
  /-- Only cells of a sheet are recorded as reading anything. -/
  keyed : ∀ a b, session.graph.Reads a b → ∃ p : Position, p.OnSheet ∧ p.id = a

/-- A session that has done nothing yet is ready. -/
theorem ready_start (maxDepth maxAge : Int) : Ready maxDepth (start (.builtin maxDepth) maxAge) := by
  refine ⟨rfl, rfl, transposed_empty, fun a b reads => ?_⟩
  simp [graph, start, Workspace.empty, Reads] at reads

/-- A session stays ready if its records are refreshed by formulas of cells of a sheet. -/
theorem Ready.refresh (ready : Ready maxDepth session) (evaluator : after.evaluator = session.evaluator)
    (pending : after.workspace.pending = session.workspace.pending)
    (refreshes : Refreshes formulas session.graph after.graph)
    (keyed : ∀ x formula, formulas x = some formula → ∃ p : Position, p.OnSheet ∧ p.id = x) :
    Ready maxDepth after := by
  refine ⟨evaluator.trans ready.evaluator, pending.trans ready.idle,
    refreshes.transposed ready.transposed, fun a b reads => ?_⟩
  -- What is recorded now was recorded before, or a formula refers to it.
  rcases refreshes.reads reads with recorded | refers
  · exact ready.keyed a b recorded
  · obtain ⟨formula, has⟩ := refers.has_formula
    exact keyed a formula has

/-- A session stays ready if its evaluator and its workspace stay the same. -/
theorem Ready.congr (ready : Ready maxDepth session) (evaluator : after.evaluator = session.evaluator)
    (workspace : after.workspace = session.workspace) : Ready maxDepth after := by
  -- All that is asked of a session is asked of these two parts.
  obtain ⟨same, idle, transposed, keyed⟩ := ready
  exact ⟨evaluator.trans same, workspace ▸ idle, by rwa [graph, workspace], by rwa [graph, workspace]⟩

/-- Evaluating a formula for its cell leaves the workspace as the evaluator does too. -/
theorem evaluateOrError_run (sheet : Sheet) (on : p.OnSheet) (formula : String) (session : Session) :
    let run := session.evaluator.evaluate sheet p.id formula session.workspace
    (evaluateOrError sheet p.id formula session).1 = shown run.1 ∧
      (evaluateOrError sheet p.id formula session).2.workspace = run.2 ∧
      (evaluateOrError sheet p.id formula session).2.evaluator = session.evaluator := by
  rw [evaluateOrError_call, worked, work, Position.upper_id on]
  rcases session.evaluator.evaluate sheet p.id formula session.workspace with ⟨outcome, w⟩
  -- Recording a value in the cache changes neither of the two parts.
  dsimp only
  cases shown outcome <;> exact ⟨rfl, rfl, rfl⟩

/-- What an evaluator does with a formula, on the workspace of a session that is ready. -/
theorem Ready.evaluates (ready : Ready maxDepth session) (on : p.OnSheet)
    (has : formulas p.id = some formula) (agree : Evaluator.Agrees formulas sheet [p.id]) :
    Evaluates formulas maxDepth.toNat p.id session.workspace
      ((Evaluator.builtin maxDepth).meaningWithin sheet maxDepth.toNat p.id formula)
      (session.evaluator.evaluate sheet p.id formula session.workspace) := by
  rw [ready.evaluator]
  -- Within the whole depth and with nothing pending an evaluation follows the meaning.
  exact Evaluator.evaluate_evaluates (.builtin maxDepth) Registry.plain_builtin on ready.idle has agree

/-- The evaluator's work on a formula for a cell keeps a session ready. -/
theorem Ready.worked (ready : Ready maxDepth session) (sheet : Sheet) (on : p.OnSheet)
    (formula : String) : Ready maxDepth (session.worked sheet p.id formula) := by
  have evaluates := ready.evaluates on (if_pos rfl)
    (Evaluator.agrees_formulasWith sheet p.id formula)
  rw [Session.worked, work, Position.upper_id on]
  refine ready.refresh rfl evaluates.pending evaluates.refreshes fun x own has => ?_
  -- The cell itself is on the sheet, and so is every cell with a formula.
  rw [Sheet.formulasWith] at has
  split at has
  · rename_i here
    exact ⟨p, on, here.symm⟩
  · obtain ⟨q, named, same, _⟩ := Sheet.named_of_formulas has
    exact ⟨q, named.onSheet, same⟩

/-- Evaluating a formula keeps a session ready. -/
theorem evaluate_keeps (sheet : Sheet) (on : p.OnSheet) (formula : String) :
    Keeps (Ready maxDepth) (evaluate sheet p.id formula) :=
  evaluate_keeps_of (fun _ ready => ready.worked sheet on formula)
    fun _ _ ready => ready.congr rfl rfl

/-- Evaluating a formula for its cell keeps a session ready. -/
theorem evaluateOrError_keeps (sheet : Sheet) (on : p.OnSheet) (formula : String) :
    Keeps (Ready maxDepth) (evaluateOrError sheet p.id formula) :=
  evaluateOrError_keeps_of (fun _ ready => ready.worked sheet on formula)
    fun _ _ ready => ready.congr rfl rfl

/-- Forgetting what a cell reads keeps a session ready. -/
theorem Ready.forgetDependencies (ready : Ready maxDepth session) (id : String) :
    Ready maxDepth (session.forgetDependencies id) := by
  -- Removing a cell without a formula refreshes the records.
  have refreshes : Refreshes (fun _ => none) session.graph (session.forgetDependencies id).graph :=
    refreshes_remove session.graph rfl
  exact ready.refresh rfl rfl refreshes nofun

/-- A dependent is found if its position has a name, and then its formula is what is looked at. -/
theorem revalue_cases (sheet : Sheet) (on : p.OnSheet) (session : Session) :
    (∃ e, revalue sheet p.id session = (.error e, session)) ∨
      p.Named ∧ revalue sheet p.id session =
        match Sheet.formulaAt sheet p with
        | some formula => evaluateOrError sheet p.id formula session
        | none => (.ok (((sheet p).map Cell.value).getD .blank), session.forgetDependencies p.id) := by
  rw [revalue_call]
  cases read : Position.ofText? p.id with
  | error e => exact .inl ⟨e, rfl⟩
  | ok found =>
    cases found with
    | none => exact .inl ⟨_, rfl⟩
    | some q =>
      -- The id of a cell on the sheet is read back as that cell.
      obtain ⟨named, rfl⟩ := Position.of_ofText?_id on read
      exact .inr ⟨named, rfl⟩

/-- How the value of a cell comes from its formula: it is what the formula means, or tells why not. -/
inductive Yields (formulas : Formulas) (graph : DependencyGraph) (meaning : Except Failure Value)
    (id : CellId) (v : Value) : Prop where
  /-- The formula means the value, and no chain of references goes on forever. -/
  | value (meant : meaning = .ok v) (ends : Terminates formulas.Reads id)
  /-- The formula means a failure. -/
  | failure {e : FormulaError} (meant : meaning = .error (.formula e)) (shows : v = .text e.shown)
  /-- A cycle was found behind the cell, by formulas or by what other cells have recorded. -/
  | cycle {e : FormulaError} (reported : Reported (Known formulas graph id) id e)
    (shows : v = .text e.shown)

/-- The value that is shown of an evaluation comes from the formula. -/
theorem yields_of_evaluates {room : Nat} {id : CellId} {w : Workspace}
    {meaning : Except Failure Value} {result : Except Failure Value × Workspace}
    (evaluates : Evaluates formulas room id w meaning result) (done : shown result.1 = .ok v) :
    Yields formulas w.graph meaning id v := by
  rcases outcome : result.1 with (e | f) | v'
  · -- A failure of a formula is either what the formula means or a cycle.
    rw [outcome] at done
    cases done
    rcases evaluates.agrees with meant | ⟨e', failed, reported⟩
    · exact .failure (meant.symm.trans outcome) rfl
    · cases outcome.symm.trans failed
      exact .cycle reported rfl
  · rw [outcome] at done
    cases done
  · -- A value is not a cycle that was found, so it is what the formula means.
    rw [outcome] at done
    cases done
    have agrees := evaluates.agrees.resolve_right fun ⟨e, failed, _⟩ =>
      nomatch outcome.symm.trans failed
    exact .value (agrees.symm.trans outcome) (evaluates.terminates v outcome)

/-- What comes from a formula by later records does so by the records before. -/
theorem Yields.of_refreshes {graph later : DependencyGraph} {meaning : Except Failure Value}
    {id : CellId} (yields : Yields formulas later meaning id v)
    (refreshes : Refreshes formulas graph later) : Yields formulas graph meaning id v := by
  cases yields with
  | value meant ends => exact .value meant ends
  | failure meant shows => exact .failure meant shows
  | cycle reported shows =>
    -- Whatever was recorded since then is what a formula refers to.
    refine .cycle (reported.mono (fun x y known => ?_) .refl) shows
    rcases known with refers | ⟨other, recorded⟩
    · exact .inl refers
    · exact (refreshes.reads recorded).symm.imp_right fun before => ⟨other, before⟩

/-- What a formula of a sheet means to an evaluator with the built-in functions. -/
def meaningOf (maxDepth : Int) (sheet : Sheet) (id : CellId) (formula : String) :
    Except Failure Value :=
  -- All of the depth is there.
  (Evaluator.builtin maxDepth).meaningWithin sheet maxDepth.toNat id formula

/-- What becomes of a session when the formula of a cell is evaluated and the value shown. -/
structure Refreshed (maxDepth : Int) (formulas : Formulas) (session after : Session) : Prop where
  ready : Ready maxDepth after
  refreshes : Refreshes formulas session.graph after.graph

/-- Evaluating the formula of a cell of the sheet shows a value that comes from it. -/
theorem evaluateOrError_ok (ready : Ready maxDepth session) (named : p.Named)
    (has : Sheet.formulaAt sheet p = some formula)
    (done : evaluateOrError sheet p.id formula session = (.ok v, after)) :
    Refreshed maxDepth (Sheet.formulas sheet) session after ∧
      (0 < maxDepth → Current (Sheet.formulas sheet) after.graph p.id) ∧
      Yields (Sheet.formulas sheet) session.graph (meaningOf maxDepth sheet p.id formula) p.id v := by
  -- Both the session and the value are those of the evaluator's work.
  have kept := evaluateOrError_keeps sheet named.onSheet formula session ready
  obtain ⟨outcome, workspace, evaluator⟩ := evaluateOrError_run sheet named.onSheet formula session
  rw [done] at kept outcome workspace evaluator
  have evaluates := ready.evaluates named.onSheet ((Sheet.formulas_id sheet named).trans has)
    (Evaluator.agrees_formulas sheet [p.id])
  have refreshes := evaluates.refreshes
  have current := evaluates.current
  rw [← workspace] at refreshes current
  refine ⟨⟨kept, refreshes⟩, fun positive => current (by omega) fun f faulty => ?_,
    yields_of_evaluates evaluates outcome.symm⟩
  -- A fault would not have been shown.
  rw [faulty] at outcome
  exact nomatch outcome

/-- How the value of a dependent comes about: from its formula, or it is what the cell holds. -/
structure Revalued (maxDepth : Int) (sheet : Sheet) (graph : DependencyGraph) (p : Position)
    (v : Value) : Prop where
  ofFormula : ∀ formula, Sheet.formulaAt sheet p = some formula →
    Yields (Sheet.formulas sheet) graph (meaningOf maxDepth sheet p.id formula) p.id v
  ofValue : Sheet.formulaAt sheet p = none → v = ((sheet p).map Cell.value).getD .blank

/-- What comes about by later records does so by the records before. -/
theorem Revalued.of_refreshes {graph later : DependencyGraph}
    (revalued : Revalued maxDepth sheet later p v)
    (refreshes : Refreshes (Sheet.formulas sheet) graph later) :
    Revalued maxDepth sheet graph p v :=
  ⟨fun formula has => (revalued.ofFormula formula has).of_refreshes refreshes, revalued.ofValue⟩

/-- Looking up a dependent gives its value by its formula, or the value that it holds. -/
theorem revalue_ok (ready : Ready maxDepth session) (on : p.OnSheet)
    (done : revalue sheet p.id session = (.ok v, after)) :
    p.Named ∧ Refreshed maxDepth (Sheet.formulas sheet) session after ∧
      Revalued maxDepth sheet session.graph p v := by
  -- The call gave a value, so the id names a cell.
  rcases revalue_cases sheet on session with ⟨e, run⟩ | ⟨named, run⟩
  · exact nomatch run.symm.trans done
  · rw [run] at done
    refine ⟨named, ?_⟩
    cases has : Sheet.formulaAt sheet p with
    | some formula =>
      rw [has] at done
      obtain ⟨refreshed, -, yields⟩ := evaluateOrError_ok ready named has done
      refine ⟨refreshed, fun formula' has' => ?_, fun without => nomatch has.symm.trans without⟩
      cases has.symm.trans has'
      exact yields
    | none =>
      rw [has] at done
      cases done
      -- The cell refers to nothing now, so forgetting what it read makes its record current.
      have without : Sheet.formulas sheet p.id = none := (Sheet.formulas_id sheet named).trans has
      refine ⟨⟨ready.forgetDependencies p.id, ?_⟩, ⟨fun formula has' => ?_, fun _ => rfl⟩⟩
      · show Refreshes _ session.graph ((session.graph).remove (Text.upper p.id))
        rw [Position.upper_id on]
        exact refreshes_remove session.graph without
      · exact nomatch has.symm.trans has'

/-- A cell is affected by another one if it reads it, directly or not. -/
theorem mem_affected (ready : Ready maxDepth session) (on : p.OnSheet) {x : CellId} :
    x ∈ session.affected p.id ↔ x ≠ p.id ∧ TransGen session.graph.Reads x p.id := by
  -- Links that are transposed lead to all that reads the cell.
  rw [mem_affected_iff, allDependents, Position.upper_id on,
    mem_transitiveDependents ready.transposed, and_comm]

/-- What is affected is a cell of a sheet. -/
theorem Ready.affected_keyed (ready : Ready maxDepth session) (on : p.OnSheet) {x : CellId}
    (member : x ∈ session.affected p.id) : ∃ q : Position, q.OnSheet ∧ q.id = x := by
  -- It is recorded as reading something, and only cells of a sheet are.
  obtain ⟨-, reached⟩ := (mem_affected ready on).mp member
  obtain ⟨y, reads, _⟩ := TransGen.head'_iff.mp reached
  exact ready.keyed x y reads

/-- Computing everything anew that depends on a cell keeps a session ready. -/
theorem recalculateDependents_keeps (sheet : Sheet) (on : p.OnSheet) :
    Keeps (Ready maxDepth) (recalculateDependents sheet p.id) := by
  intro session ready
  -- Each step keeps the session ready, whether the cell has a formula or not.
  refine recalculateDependents_keeps_of ready fun dependent member => ?_
  obtain ⟨q, on', rfl⟩ := ready.affected_keyed on member
  exact renew_keeps_of (fun _ formula _ _ => evaluateOrError_keeps sheet on' formula)
    (fun _ _ _ _ ready => ready.forgetDependencies q.id) fun _ _ ready => ready.congr rfl rfl

/-- Computing a dependent anew gives its id with its value. -/
theorem renew_ok (ready : Ready maxDepth session) (on : p.OnSheet) {entry : CellId × Value}
    (done : renew sheet p.id session = (.ok entry, after)) :
    Refreshed maxDepth (Sheet.formulas sheet) session after ∧ p.Named ∧ entry.1 = p.id ∧
      Revalued maxDepth sheet session.graph p entry.2 := by
  obtain ⟨v, between, looked, done⟩ := bind_eq_ok.mp done
  obtain ⟨named, refreshed, revalued⟩ := revalue_ok ready on looked
  cases done
  -- Only the cache changes after the value was looked up.
  exact ⟨⟨refreshed.ready.congr rfl rfl, refreshed.refreshes⟩, named, rfl, revalued⟩

/-- What is computed anew when a cell changes are the affected cells, each with its value. -/
theorem recalculateDependents_ok (ready : Ready maxDepth session) (on : p.OnSheet)
    {changes : List (CellId × Value)}
    (done : recalculateDependents sheet p.id session = (.ok changes, after)) :
    Refreshed maxDepth (Sheet.formulas sheet) session after ∧
      changes.map Prod.fst = session.affected p.id ∧
      ∀ entry ∈ changes, ∃ q : Position, q.Named ∧ q.id = entry.1 ∧
        Revalued maxDepth sheet session.graph q entry.2 := by
  rw [recalculateDependents_call] at done
  -- The records are refreshed with each dependent, and each value goes back to the first records.
  refine mapM_ok (Refreshed maxDepth (Sheet.formulas sheet) session)
    (fun entry => ∃ q : Position, q.Named ∧ q.id = entry.1 ∧
      Revalued maxDepth sheet session.graph q entry.2) done ⟨ready, .refl _ _⟩ ?_
  intro x member between entry later refreshed step
  obtain ⟨q, on', rfl⟩ := ready.affected_keyed on member
  obtain ⟨again, named, same, revalued⟩ := renew_ok refreshed.ready on' step
  exact ⟨⟨again.ready, refreshed.refreshes.trans again.refreshes⟩, same, q, named, same.symm,
    revalued.of_refreshes refreshed.refreshes⟩

end Session
end Spreadsheet
