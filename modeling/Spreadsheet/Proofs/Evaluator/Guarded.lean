import Spreadsheet.Proofs.Evaluator.Answered

/-!
The guard against a cell that is evaluated inside itself is never needed: whatever has been recorded
before, the search for cycles ends an evaluation before it asks for a cell that is pending.
-/

namespace Spreadsheet

open Relation DependencyGraph Evaluation Stateful

variable {formulas : Formulas} {Scope : CellId → Prop} {Inv : DependencyGraph → Prop}
  {evaluator : Evaluator} {sheet : Sheet} {pending : List CellId} {p : Position} {e : Expr}
  {w : Workspace} {outer inner start request : Request}

/-- A request for a cell that is not pending, inside pending cells each of which refers to the next. -/
structure Request.Proper (formulas : Formulas) (sheet : Sheet) (request : Request) : Prop where
  has : formulas request.id = some request.formula
  fresh : request.id ∉ request.workspace.pending
  stacked : Stacked formulas request.workspace.graph request.id request.workspace.pending
  agree : Evaluator.Agrees formulas sheet (request.id :: request.workspace.pending)

namespace Evaluator

/-- Evaluating the formula of a cell in a scope keeps what recording the formulas in the scope does. -/
theorem evaluate_pends (plain : evaluator.registry.Plain)
    -- The scope names the cells of which the records may change.
    (kept : RecordingKeeps formulas Scope Inv) {id formula : String} (scope : Scope (Text.upper id))
    (has : formulas (Text.upper id) = some formula ∨ Text.upper id ∈ pending)
    (agree : Agrees formulas sheet (Text.upper id :: pending)) :
    Keeps (Pends pending Inv) (evaluator.evaluate sheet id formula) :=
  fun w => evaluateWithin_pends plain kept scope has agree w

end Evaluator

open Evaluator

namespace Request.Proper

/-- Recording the formula of a proper request refreshes the records and makes its own current. -/
theorem entered (proper : request.Proper formulas sheet)
    (parsed : Expr.ofFormula request.formula = .ok e) :
    Refreshes formulas request.workspace.graph (request.entered e).graph ∧
      Current formulas (request.entered e).graph request.id := by
  -- The request has the formula of its cell, so what it records is what that formula refers to.
  have refreshes := refreshes_setDependencies request.workspace.graph proper.has
  have current : Current formulas (request.workspace.graph.setDependencies request.id
      (Expr.referencesIn request.formula) (some request.formula)) request.id :=
    current_setDependencies proper.has
  rw [Expr.referencesIn_of_ok parsed] at refreshes current
  exact ⟨refreshes, current⟩

/-- What the formula of a proper request asks for is read from its cell. -/
theorem reads (proper : request.Proper formulas sheet)
    (parsed : Expr.ofFormula request.formula = .ok e) (member : p ∈ e.positions) :
    formulas.Reads request.id p.id :=
  (Formulas.reads_iff proper.has parsed).mpr ⟨p, member, rfl⟩

/-- What is read for a proper request keeps what recording formulas in the scope of its cell does. -/
theorem reads_pend (plain : evaluator.registry.Plain) (proper : request.Proper formulas sheet)
    (parsed : Expr.ofFormula request.formula = .ok e) (kept : RecordingKeeps formulas Scope Inv)
    (scope : Scope request.id) :
    ∀ p ∈ e.positions, Keeps (Pends (request.id :: request.workspace.pending) Inv)
      (readCell sheet (evaluator.evaluate sheet) p) := by
  -- Each of them is evaluated with the own cell on the stack.
  refine Evaluator.reads_pend kept scope proper.has proper.agree parsed
    fun p own named has scope agree => ?_
  -- An id of a position is already in capital letters.
  have same := Position.upper_id named.onSheet
  exact evaluate_pends plain kept (same.symm ▸ scope) (same.symm ▸ has) (same.symm ▸ agree)

/-- Where no cycle is found, what a proper request asks for is not pending: it would close a cycle. -/
theorem outside (proper : request.Proper formulas sheet)
    (parsed : Expr.ofFormula request.formula = .ok e)
    (acyclic : (request.entered e).graph.cycleFrom? request.id = none) (member : p ∈ e.positions) :
    p.id ∉ request.id :: request.workspace.pending := by
  -- The pending cells lead to the own cell, so one of them read again would be a cycle from it.
  obtain ⟨refreshes, current⟩ := proper.entered parsed
  exact (proper.stacked.refresh refreshes).not_pending current acyclic (proper.reads parsed member)

/-- The formula of a cell that a proper request asks for is the one that the sheet has. -/
theorem formula_eq (proper : request.Proper formulas sheet)
    (parsed : Expr.ofFormula request.formula = .ok e)
    (acyclic : (request.entered e).graph.cycleFrom? request.id = none) (member : p ∈ e.positions) :
    formulas p.id = Sheet.formulaAt sheet p :=
  -- The sheets differ from the formulas at pending cells only.
  proper.agree p ((Expr.ofFormula_delivers request.formula).of_ok parsed p member)
    (proper.outside parsed acyclic member)

/-- A request that a proper one starts is proper: no cell is asked for inside itself. -/
theorem started (plain : evaluator.registry.Plain) (proper : outer.Proper formulas sheet)
    (starts : Inner evaluator sheet outer inner) : inner.Proper formulas sheet := by
  obtain ⟨accepted, parsed, acyclic, asks, stands⟩ := starts
  rename_i e p own u
  obtain ⟨refreshes, current⟩ := proper.entered parsed
  -- The cells that were asked for before have left the pending cells current.
  have kept := recordingKeeps_refreshes formulas (outer.entered e).graph
  obtain ⟨member, pending, refreshed⟩ := Expr.asks_keeps plain e
    (proper.reads_pend plain parsed kept trivial) ⟨rfl, .refl _ _⟩ asks
  refine ⟨(proper.formula_eq parsed acyclic member).trans stands, ?_, ?_, ?_⟩
  · -- The requests are given with the pending cells of the outer one, extended by its own.
    exact pending ▸ proper.outside parsed acyclic member
  · have stacked := proper.stacked.refresh refreshes
    exact pending ▸ stacked.push current (proper.reads parsed member) refreshed
  · exact pending ▸ proper.agree.push p.id

/-- Whatever is asked for inside a proper request is asked for by proper requests. -/
theorem reached (plain : evaluator.registry.Plain) (proper : start.Proper formulas sheet)
    (inside : ReflTransGen (Inner evaluator sheet) start request) :
    request.Proper formulas sheet := by
  -- The induction is along the evaluations from the outermost one inwards.
  induction inside with
  | refl => exact proper
  | tail _ starts ih => exact ih.started plain starts

/-- A request outside all others is proper by the formulas of the sheet and its own. -/
theorem outermost (sheet : Sheet) (c : CellId) (formula : String) (graph : DependencyGraph) :
    (Request.mk c formula ⟨graph, []⟩).Proper (Sheet.formulasWith sheet c formula) sheet :=
  -- The formulas are those of the sheet with the own one in its place.
  ⟨if_pos rfl, List.not_mem_nil, ⟨by simp, by simp⟩, agrees_formulasWith sheet c formula⟩

end Request.Proper

namespace Evaluator

/-- A proper request ends with a circular reference only where the search inside it finds a cycle. -/
theorem exists_closes (plain : evaluator.registry.Plain) (proper : request.Proper formulas sheet)
    {error : FormulaError} {after : Workspace}
    (failed : evaluator.answer sheet request = (.error (.formula error), after))
    (circular : error.kind = .circularReference) :
    ∃ t e path, ReflTransGen (Inner evaluator sheet) request t ∧
      t.Closes evaluator.maxDepth e path ∧ error = .circular path ∧
      (t.entered e).graph = after.graph := by
  -- The induction is on the evaluations inside the request, of which there is no infinite chain.
  induction request using (wellFounded_inner plain sheet).induction generalizing after with
  | _ request ih =>
    rcases answer_circular plain failed circular with waits | ⟨e, path, closes, same, left⟩ |
      ⟨inner, last, starts, left, failed⟩
    · -- The guard itself would need a pending cell.
      exact absurd waits proper.fresh
    · -- The search of the request itself has found the cycle.
      exact ⟨request, e, path, .refl, closes, same, left⟩
    · -- The failure is that of an evaluation inside, to which the induction applies.
      obtain ⟨t, e, path, inside, closes, same, graph⟩ :=
        ih inner starts (proper.started plain starts) failed
      exact ⟨t, e, path, .head starts inside, closes, same, graph.trans left⟩

/--
No evaluation is ever started for a cell that is pending, whatever has been recorded before, so the
guard against it is never needed. Every circular reference, that of the evaluation or of one inside it,
is a cycle that the search has found when a formula was recorded.
-/
theorem circular_only_from_search (maxDepth : Int) (sheet : Sheet) (id formula : String)
    (graph : DependencyGraph) :
    (∀ t, ReflTransGen (Inner (builtin maxDepth) sheet) ⟨Text.upper id, formula, ⟨graph, []⟩⟩ t →
      t.id ∉ t.workspace.pending) ∧
    (∀ error, ((builtin maxDepth).evaluate sheet id formula ⟨graph, []⟩).1 =
        .error (.formula error) → error.kind = .circularReference →
      ∃ t e path,
        ReflTransGen (Inner (builtin maxDepth) sheet) ⟨Text.upper id, formula, ⟨graph, []⟩⟩ t ∧
        t.Closes maxDepth e path ∧ error = .circular path) ∧
    ∀ s, TransGen (Inner (builtin maxDepth) sheet) ⟨Text.upper id, formula, ⟨graph, []⟩⟩ s →
      ∀ error, ((builtin maxDepth).evaluate sheet s.id s.formula s.workspace).1 =
          .error (.formula error) → error.kind = .circularReference →
        ∃ t e path, ReflTransGen (Inner (builtin maxDepth) sheet) s t ∧
          t.Closes maxDepth e path ∧ error = .circular path := by
  have plain : (builtin maxDepth).registry.Plain := Registry.plain_builtin
  have proper := Request.Proper.outermost sheet (Text.upper id) formula graph
  -- First, no request reached from the outermost one is pending; each is proper.
  refine ⟨fun t inside => (proper.reached plain inside).fresh, ?_, ?_⟩
  · intro error failed circular
    rw [evaluate_eq_answer plain] at failed
    obtain ⟨t, e, path, inside, closes, same, -⟩ :=
      exists_closes plain proper (Prod.ext failed rfl) circular
    exact ⟨t, e, path, inside, closes, same⟩
  · -- An evaluation inside is an answer as well, to a proper request with cells pending.
    intro s within error failed circular
    obtain ⟨outer, -, starts⟩ := TransGen.tail'_iff.mp within
    rw [starts.evaluate_eq_answer plain] at failed
    obtain ⟨t, e, path, inside, closes, same, -⟩ := exists_closes plain
      (proper.reached plain within.to_reflTransGen) (Prod.ext failed rfl) circular
    exact ⟨t, e, path, inside, closes, same⟩

/-- Records in which the first cell of a sheet still reads one that it does not refer to any more. -/
def stale : DependencyGraph := DependencyGraph.empty.setDependencies "A1" ["C1"] (some "=C1")

/-- A stale record closes a cycle, which the search finds inside the cell that was asked for. -/
theorem circular_only_from_search_stale :
    ∃ s, TransGen (Inner (builtin 100) steps) ⟨Text.upper "C1", "=B1", ⟨stale, []⟩⟩ s ∧
      s.id ∉ s.workspace.pending ∧
      ((builtin 100).evaluate steps "C1" "=B1" ⟨stale, []⟩).1 =
        .error (.formula (.circular ["B1", "A1", "C1", "B1"])) ∧
      ∃ t e path,
        ReflTransGen (Inner (builtin 100) steps) ⟨Text.upper "C1", "=B1", ⟨stale, []⟩⟩ t ∧
        t.Closes 100 e path ∧ FormulaError.circular ["B1", "A1", "C1", "B1"] = .circular path := by
  -- The search finds the cycle with the first cell, one evaluation inside the outermost one.
  have failed : ((builtin 100).evaluate steps "C1" "=B1" ⟨stale, []⟩).1 =
      .error (.formula (.circular ["B1", "A1", "C1", "B1"])) := by with_unfolding_all rfl
  have starts : Inner (builtin 100) steps ⟨Text.upper "C1", "=B1", ⟨stale, []⟩⟩
      ⟨(⟨1, 0⟩ : Position).id, "=A1",
        (Request.mk (Text.upper "C1") "=B1" ⟨stale, []⟩).entered (.cell ⟨1, 0⟩)⟩ :=
    -- The step inwards is checked by its definition: accepted, parsed, no cycle, asked for.
    .intro ⟨by decide, by decide⟩ (by with_unfolding_all rfl) (by with_unfolding_all rfl) .cell rfl
  obtain ⟨fresh, found, -⟩ := circular_only_from_search 100 steps "C1" "=B1" stale
  exact ⟨_, .single starts, fresh _ (.single starts), failed, found _ failed rfl⟩

end Evaluator
end Spreadsheet
