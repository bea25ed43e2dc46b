import Spreadsheet.Proofs.Evaluator.Records

/-!
What an evaluation does to the cycles in the records, whatever they were before: unless it ends with a
circular reference it leads to none behind a cell behind which there was none.
-/

namespace Spreadsheet

open Relation DependencyGraph Evaluation Stateful

variable {graph : DependencyGraph} {evaluator : Evaluator} {sheet : Sheet} {id x : CellId}
  {formula : String} {references : List CellId} {text : Option String} {e : Expr} {w : Workspace}
  {read : Position → Evaluation Value} {α : Type}

/-- A computation ends with a circular reference. -/
def EndsCircular (outcome : Except Failure α) : Prop :=
  -- The path is that of the search or of the pending cells.
  ∃ path, outcome = .error (.formula (.circular path))

namespace DependencyGraph

/-- Other cells read what they did before a cell was recorded. -/
theorem reads_of_setDependencies {a b : CellId} (apart : a ≠ id)
    (reads : (graph.setDependencies id references text).Reads a b) : graph.Reads a b := by
  -- Only the records of the cell itself change.
  simpa [Reads, apart] using reads

/-- Recording a cell leads to no cycle that the search behind the cell does not find. -/
theorem acyclic_setDependencies
    (none : (graph.setDependencies id references text).cycleFrom? id = none)
    (clear : ¬ CycleBehind graph.Reads x) :
    ¬ CycleBehind (graph.setDependencies id references text).Reads x := fun cycle =>
  -- A cycle through the cell itself would have been found by the search.
  clear (cycle.without (fun _ _ apart => reads_of_setDependencies apart)
    (terminates_of_cycleFrom?_eq_none none).no_cycle)

/-- Recording that a cell reads nothing leads to no cycle. -/
theorem acyclic_setDependencies_nil (clear : ¬ CycleBehind graph.Reads x) :
    ¬ CycleBehind (graph.setDependencies id [] text).Reads x := by
  refine fun cycle => clear (cycle.mono fun a b reads => reads_of_setDependencies ?_ reads)
  -- The cell itself reads nothing, so it is not on the cycle.
  rintro rfl
  simp [Reads] at reads

end DependencyGraph

/-- Unless it ends with a circular reference, an evaluation leads to no cycle behind a cell. -/
def KeepsAcyclic (x : CellId) (work : Evaluation α) : Prop :=
  -- A cycle that was there before may stay.
  ∀ w, ¬ CycleBehind w.graph.Reads x → ¬ EndsCircular (work w).1 →
    ¬ CycleBehind (work w).2.graph.Reads x

/-- An evaluation leads to no cycle if its parts lead to none. -/
theorem compositional_keepsAcyclic (x : CellId) :
    Compositional fun {α} (work : Evaluation α) => KeepsAcyclic x work := by
  refine ⟨fun outcome w clear _ => ?_, fun {α β work next} first second w clear plainly => ?_⟩
  · -- Without the workspace nothing changes.
    cases outcome <;> exact clear
  · -- Only the last part of what is done can end with a circular reference.
    have between := first w clear
    rw [bind_run] at plainly ⊢
    cases ended : (work w).1 with
    | ok a =>
      rw [ended] at plainly between
      -- A value is no circular reference, so the first part leads to no cycle.
      exact second a _ (between (by rintro ⟨path, ⟨⟩⟩)) plainly
    | error failure =>
      rw [ended] at plainly between
      refine between ?_
      rintro ⟨path, ⟨⟩⟩
      -- A failure of the first part is the failure of the whole.
      exact plainly ⟨path, rfl⟩

namespace Evaluator

/-- Once the search finds no cycle behind a cell, evaluating its formula leads to none. -/
theorem evaluateFormula_acyclic (plain : evaluator.registry.Plain)
    (each : ∀ p, KeepsAcyclic id (read p)) (parsed : Expr.ofFormula formula = .ok e)
    (plainly : ¬ EndsCircular (evaluator.evaluateFormula read id formula w).1) :
    ¬ CycleBehind (evaluator.evaluateFormula read id formula w).2.graph.Reads id := by
  rw [evaluateFormula_of_ok parsed _ rfl] at plainly ⊢
  dsimp only at plainly ⊢
  split at plainly
  · -- The search has found a cycle, and the evaluation ends with it.
    exact absurd ⟨_, rfl⟩ plainly
  · rename_i none
    exact evaluateAlone_composes (compositional_keepsAcyclic id) plain e (fun p _ => each p) _
      (terminates_of_cycleFrom?_eq_none none).no_cycle plainly

/-- Evaluating a formula leads to no cycle if reading its cells does not. -/
theorem evaluateFormula_keepsAcyclic (plain : evaluator.registry.Plain)
    (each : ∀ p, KeepsAcyclic x (read p)) (id : CellId) (formula : String) :
    KeepsAcyclic x (evaluator.evaluateFormula read id formula) := by
  intro w clear plainly
  cases parsed : Expr.ofFormula formula with
  | error failure =>
    cases failure with
    | fault f =>
      -- Nothing is recorded.
      rw [evaluateFormula_of_fault parsed]
      exact clear
    | formula e =>
      rw [evaluateFormula_of_unread parsed]
      exact acyclic_setDependencies_nil clear
  | ok e =>
    rw [evaluateFormula_of_ok parsed _ rfl] at plainly ⊢
    dsimp only at plainly ⊢
    split at plainly
    · -- Here too the search ends the evaluation with a cycle.
      exact absurd ⟨_, rfl⟩ plainly
    · rename_i none
      -- From here on the records have no cycle behind either cell.
      exact evaluateAlone_composes (compositional_keepsAcyclic x) plain e (fun p _ => each p) _
        (acyclic_setDependencies none clear) plainly

/-- With any room, evaluating a formula leads to no cycle unless it ends with a circular reference. -/
theorem evaluateWithin_keepsAcyclic (plain : evaluator.registry.Plain) (sheet : Sheet) (x : CellId)
    (room : Nat) (id : CellId) (formula : String) :
    KeepsAcyclic x (evaluator.evaluateWithin sheet room id formula) := by
  -- The induction is on the room; the cells that are read have less of it.
  induction room generalizing id formula with
  | zero =>
    intro w clear _
    -- Without room the records stay as they are.
    rw [evaluateWithin_zero_workspace]
    exact clear
  | succ room ih =>
    intro w clear plainly
    by_cases waits : id ∈ w.pending
    · rw [evaluateWithin_of_pending waits]
      exact clear
    · rw [evaluateWithin_succ waits] at plainly ⊢
      have each : ∀ p, KeepsAcyclic x (readCell sheet (evaluator.evaluateWithin sheet room) p) :=
        fun p => readCell_composes (compositional_keepsAcyclic x) fun own _ => ih p.id own
      exact evaluateFormula_keepsAcyclic plain each id formula
        { w with pending := id :: w.pending } clear plainly

end Evaluator
end Spreadsheet
