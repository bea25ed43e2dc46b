import Spreadsheet.Proofs.Cache.Batch
import Spreadsheet.Proofs.Formulas
import Spreadsheet.Proofs.Step
import Spreadsheet.Session

/-!
What the calls of a session do for any id, however it is written, and what they keep of the session if
its evaluator and its cache do.
-/

namespace Spreadsheet

open DependencyGraph Stateful

namespace Session

variable {session after : Session} {sheet : Sheet} {id : String} {formula : String} {d x : CellId}
  {v : Value}

/-- What a cell shows of an outcome: the text that stands for a failure of a formula. -/
def shown : Except Failure Value → Except Failure Value
  -- Faults are not shown.
  | .error (.formula e) => .ok (.text e.shown)
  | outcome => outcome

/-- What the evaluator of a session does with a formula for an id. -/
def work (session : Session) (sheet : Sheet) (id formula : String) : Except Failure Value × Workspace :=
  -- The id is put in upper case before the evaluator gets it.
  session.evaluator.evaluate sheet (Text.upper id) formula session.workspace

/-- A session with the workspace that its evaluator leaves. -/
def worked (session : Session) (sheet : Sheet) (id formula : String) : Session :=
  { session with workspace := (session.work sheet id formula).2 }

/-- Evaluating a formula is the evaluator's work, whose value is cached. -/
theorem evaluate_call (sheet : Sheet) (id formula : String) (session : Session) :
    evaluate sheet id formula session =
      match (session.work sheet id formula).1 with
      | .ok v => (.ok v, (session.worked sheet id formula).record (Text.upper id) v)
      | .error e => (.error e, session.worked sheet id formula) := by
  unfold evaluate worked work
  -- The workspace is kept in any case, and a value is recorded after it.
  refine (bind_run (ofEvaluation (session.evaluator.evaluate sheet (Text.upper id) formula)) _
    _).trans ?_
  unfold ofEvaluation
  rcases session.evaluator.evaluate sheet (Text.upper id) formula session.workspace with ⟨outcome, w⟩
  cases outcome <;> rfl

/-- Evaluating a formula for its cell is the evaluator's work, and what is shown of it is cached. -/
theorem evaluateOrError_call (sheet : Sheet) (id formula : String) (session : Session) :
    evaluateOrError sheet id formula session =
      match shown (session.work sheet id formula).1 with
      | .ok v => (.ok v, (session.worked sheet id formula).record (Text.upper id) v)
      | .error e => (.error e, session.worked sheet id formula) := by
  unfold evaluateOrError
  -- Only a failure of a formula is caught, and then a text is recorded.
  refine (tryCatch_run (evaluate sheet id formula) _ session).trans ?_
  rw [evaluate_call]
  rcases (session.work sheet id formula).1 with (e | f) | v <;> rfl

/-- A dependent whose id names a cell gets the value of its formula, or the value that it holds. -/
theorem revalue_call (sheet : Sheet) (d : CellId) (session : Session) :
    revalue sheet d session =
      match Position.ofText? d with
      | .error e => (.error e, session)
      | .ok none => (.error (.fault .mismatch), session)
      | .ok (some p) =>
        match Sheet.formulaAt sheet p with
        | some formula => evaluateOrError sheet d formula session
        | none => (.ok (((sheet p).map Cell.value).getD .blank), session.forgetDependencies d) := by
  unfold revalue
  -- The id has to name a cell before anything else is looked at.
  cases read : Position.ofText? d with
  | error e => rfl
  | ok found =>
    cases found with
    | none => rfl
    | some p =>
      show (match Sheet.formulaAt sheet p with
        | some formula => evaluateOrError sheet d formula
        | none => do
          modify (·.forgetDependencies d)
          return ((sheet p).map Cell.value).getD .blank : Step Value) session = _
      dsimp only
      cases Sheet.formulaAt sheet p <;> rfl

/-- The cells that are computed anew when a cell changes, in their order. -/
def affected (session : Session) (id : String) : List CellId :=
  -- The changed cell is left out.
  session.cache.order
    (session.graph.dependencyOrder ((session.allDependents id).erase (Text.upper id)).toList)

/-- What is computed anew are the dependents of the cell without the cell itself. -/
theorem mem_affected_iff :
    x ∈ session.affected id ↔ x ∈ session.allDependents id ∧ x ≠ Text.upper id := by
  rw [affected, Cache.mem_order, mem_dependencyOrder, Std.ExtTreeSet.mem_toList, Std.ExtTreeSet.mem_erase,
    ne_eq, Std.LawfulEqCmp.compare_eq_iff_eq, ne_comm, and_comm]

/-- Nothing is computed anew twice. -/
theorem nodup_affected (session : Session) (id : String) : (session.affected id).Nodup :=
  Cache.nodup_order _ _

/-- Computing a dependent anew: its value is looked up and recorded. -/
def renew (sheet : Sheet) (dependent : CellId) : Step (CellId × Value) := do
  -- The records of the cache change with those of the graph.
  let v ← revalue sheet dependent
  modify (·.refresh dependent v)
  return (dependent, v)

/-- Computing everything anew that depends on a cell goes along the affected cells. -/
theorem recalculateDependents_call (sheet : Sheet) (id : String) (session : Session) :
    recalculateDependents sheet id session = (session.affected id).mapM (renew sheet) session := by
  unfold recalculateDependents
  -- The affected cells are read off the session that the call starts with.
  rw [bind_run]
  rfl

/-- What is computed anew comes in the order in which it was computed. -/
theorem mapM_renew_keys {ids : List CellId} {changes : List (CellId × Value)}
    (done : ids.mapM (renew sheet) session = (.ok changes, after)) : changes.map Prod.fst = ids := by
  -- Every entry is for the cell that was computed.
  refine (mapM_ok (fun _ => True) (fun _ => True) done trivial ?_).2.1
  intro d _ s entry t _ step
  obtain ⟨v, between, -, made⟩ := bind_eq_ok.mp step
  cases made
  exact ⟨trivial, rfl, trivial⟩

/-- What is computed anew when a cell changes comes in the order of the affected cells. -/
theorem recalculateDependents_keys {changes : List (CellId × Value)}
    (done : recalculateDependents sheet id session = (.ok changes, after)) :
    changes.map Prod.fst = session.affected id := by
  rw [recalculateDependents_call] at done
  exact mapM_renew_keys done

section Keeping

variable {Inv : Session → Prop}

/-- Evaluating a formula keeps what the evaluator's work and caching a value keep. -/
theorem evaluate_keeps_of (works : ∀ session, Inv session → Inv (session.worked sheet id formula))
    (records : ∀ session v, Inv session → Inv (session.record (Text.upper id) v)) :
    Keeps Inv (evaluate sheet id formula) := by
  -- A failure leaves the session that the evaluator has worked on.
  intro session inv
  rw [evaluate_call]
  cases (session.work sheet id formula).1 with
  | ok v => exact records _ v (works session inv)
  | error e => exact works session inv

/-- Evaluating a formula for its cell keeps what the evaluator's work and caching a value keep. -/
theorem evaluateOrError_keeps_of
    (works : ∀ session, Inv session → Inv (session.worked sheet id formula))
    (records : ∀ session v, Inv session → Inv (session.record (Text.upper id) v)) :
    Keeps Inv (evaluateOrError sheet id formula) := by
  intro session inv
  rw [evaluateOrError_call]
  cases shown (session.work sheet id formula).1 with
  | ok v => exact records _ v (works session inv)
  | error e => exact works session inv

/-- Computing a dependent anew keeps what its formula does, and forgetting it if it has none. -/
theorem renew_keeps_of
    (evaluates : ∀ p formula, Position.ofText? d = .ok (some p) →
      Sheet.formulaAt sheet p = some formula → Keeps Inv (evaluateOrError sheet d formula))
    (forgets : ∀ p, Position.ofText? d = .ok (some p) → Sheet.formulaAt sheet p = none →
      ∀ session, Inv session → Inv (session.forgetDependencies d))
    (refreshes : ∀ session v, Inv session → Inv (session.refresh d v)) :
    Keeps Inv (renew sheet d) := by
  have looks : Keeps Inv (revalue sheet d) := by
    intro session inv
    rw [revalue_call]
    -- An id that names no cell changes nothing.
    cases read : Position.ofText? d with
    | error e => exact inv
    | ok found =>
      cases found with
      | none => exact inv
      | some p =>
        dsimp only
        cases has : Sheet.formulaAt sheet p with
        | some formula => exact evaluates p formula read has session inv
        | none => exact forgets p read has session inv
  -- What was looked up is recorded in the cache at last.
  exact looks.bind fun v => (Keeps.change fun session => refreshes session v).bind fun _ => .pure _

/-- Computing what depends on a cell anew keeps what computing each affected cell does. -/
theorem recalculateDependents_keeps_of (inv : Inv session)
    (each : ∀ d ∈ session.affected id, Keeps Inv (renew sheet d)) :
    Inv (recalculateDependents sheet id session).2 := by
  rw [recalculateDependents_call]
  exact Keeps.mapM _ each session inv

end Keeping

end Session
end Spreadsheet
