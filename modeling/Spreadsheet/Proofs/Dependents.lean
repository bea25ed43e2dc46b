import Spreadsheet.Proofs.Evaluator.Failures
import Spreadsheet.Proofs.Frame
import Spreadsheet.Proofs.Reached

/-!
What recalculation does with each dependent of a cell, whatever has been recorded. A failure of a
formula becomes the value of its cell; the others are stopped only by a dependent that names no cell, or
by one whose formula is at fault in a conversion or meets a moment with an offset.
-/

namespace Spreadsheet

open Relation DependencyGraph Stateful

namespace Session

variable {session after : Session} {sheet : Sheet} {id : String} {d : CellId} {v : Value}
  {e : Failure}

/--
How a dependent gets its value in a recalculation: its formula is evaluated with the cells pending that
were so before the call, and with records that formulas of the sheet may have refreshed.
-/
inductive Answers (session : Session) (sheet : Sheet) (d : CellId) (v : Value) : Prop where
  /-- The value is what is shown of its formula, a text if the formula fails. -/
  | formula {p : Position} {own : String} {w : Workspace}
    (read : Position.ofText? d = .ok (some p)) (has : Sheet.formulaAt sheet p = some own)
    (within : Within (Sheet.formulasSpelled sheet) session.graph session.workspace.pending w)
    (shows : shown (session.evaluator.evaluate sheet (Text.upper d) own w).1 = .ok v)
  /-- The value is the one that its cell holds, without a formula. -/
  | value {p : Position} (read : Position.ofText? d = .ok (some p))
    (without : Sheet.formulaAt sheet p = none) (holds : v = ((sheet p).map Cell.value).getD .blank)

/-- How a dependent stops those that come after it. -/
inductive Stops (session : Session) (sheet : Sheet) (d : CellId) : Failure → Prop where
  /-- Its id names a column or a row that no sheet has. -/
  | unreadable {e : Failure} (read : Position.ofText? d = .error e) : Stops session sheet d e
  /-- Its id is no reference. -/
  | nowhere (read : Position.ofText? d = .ok none) : Stops session sheet d (.fault .mismatch)
  /--
  A conversion is at fault while its formula is evaluated, or a moment with an offset that a cell of the
  sheet holds.
  -/
  | faulty {p : Position} {own : String} {w : Workspace} {f : Fault}
    (read : Position.ofText? d = .ok (some p)) (has : Sheet.formulaAt sheet p = some own)
    (within : Within (Sheet.formulasSpelled sheet) session.graph session.workspace.pending w)
    (fails : (session.evaluator.evaluate sheet (Text.upper d) own w).1 = .error (.fault f))
    (cause : f.Conversion ∨ f = .zoned ∧ sheet.Zoned) : Stops session sheet d (.fault f)

private theorem fault_of_shown {outcome : Except Failure Value} (failed : shown outcome = .error e) :
    ∃ f, outcome = .error (.fault f) ∧ e = .fault f := by
  -- Failures of formulas are shown, so only faults remain.
  rcases outcome with (reason | f) | v
  · cases failed
  · cases failed
    exact ⟨f, rfl, rfl⟩
  · cases failed

/-- The sessions that dependents are looked up in when a session computes them anew. -/
private abbrev Between (session : Session) (sheet : Sheet) : Session → Prop :=
  -- Entries of all cells may be new.
  Frame (Sheet.formulasSpelled sheet) (fun _ => True) session

/-- Looking up a dependent answers it or stops the others. -/
private theorem revalue_ends (builtin : session.evaluator.registry = .builtin) {before : Session}
    (frame : Between session sheet before) (d : CellId) :
    match (revalue sheet d before).1 with
    | .ok v => Answers session sheet d v
    | .error e => Stops session sheet d e := by
  -- The lookup is followed in its own order: the position, the formula, its outcome.
  rw [revalue_call]
  cases read : Position.ofText? d with
  | error e => exact .unreadable read
  | ok found =>
    cases found with
    | none => exact .nowhere read
    | some p =>
      dsimp only
      cases has : Sheet.formulaAt sheet p with
      | none => exact .value read has rfl
      | some own =>
        dsimp only
        rw [evaluateOrError_call, work, frame.evaluator]
        -- The workspace of the frame has the same cells pending, and only fresh records.
        have within : Within (Sheet.formulasSpelled sheet) session.graph session.workspace.pending
            before.workspace := ⟨frame.pending, frame.records⟩
        cases meant : shown
            (session.evaluator.evaluate sheet (Text.upper d) own before.workspace).1 with
        | ok v => exact .formula read has within meant
        | error e =>
          -- What is not shown is a fault, and with the built-in functions only two sorts are left.
          obtain ⟨f, failed, rfl⟩ := fault_of_shown meant
          have behaves : Behaves (fun _ => True) (Value.Told sheet.Zoned)
              (Failure.Expected sheet.Zoned) (session.evaluator.evaluate sheet (Text.upper d) own) :=
            Evaluator.evaluate_behaves (builtin ▸ upholds_expected) sheet.holds_told _ own
          exact .faulty read has within failed ((behaves before.workspace trivial).2.of_error failed)

private theorem renew_between (builtin : session.evaluator.registry = .builtin) (d : CellId) :
    Keeps (Between session sheet) (renew sheet d) :=
  renew_frame (builtin ▸ Registry.plain_builtin) trivial trivial

/-- A recalculation that succeeds has answered every dependent. -/
theorem recalculateDependents_answers (builtin : session.evaluator.registry = .builtin)
    {changes : List (CellId × Value)}
    (done : recalculateDependents sheet id session = (.ok changes, after)) :
    ∀ entry ∈ changes, Answers session sheet entry.1 entry.2 := by
  rw [recalculateDependents_call] at done
  -- What is kept along the dependents is the frame of the session.
  suffices along : Between session sheet after ∧ changes.map Prod.fst = session.affected id ∧
      ∀ entry ∈ changes, Answers session sheet entry.1 entry.2 from along.2.2
  refine mapM_ok (Between session sheet) _ done (.refl _ _ _) ?_
  intro d _ before entry later frame step
  -- One dependent after the other, the frame is kept and the results come in order.
  have kept := renew_between builtin d before frame
  rw [step] at kept
  -- The step looks the value up first and then makes the entry.
  obtain ⟨v, between, looked, made⟩ := bind_eq_ok.mp step
  have ends := revalue_ends builtin frame d
  rw [looked] at ends
  cases made
  exact ⟨kept, rfl, ends⟩

/-- A recalculation that fails was stopped by one of the dependents. -/
theorem recalculateDependents_stops (builtin : session.evaluator.registry = .builtin)
    (failed : recalculateDependents sheet id session = (.error e, after)) :
    ∃ d ∈ session.affected id, Stops session sheet d e := by
  rw [recalculateDependents_call] at failed
  -- The failure comes from one dependent, in a session that is still in the frame.
  obtain ⟨d, member, before, later, frame, step⟩ :=
    mapM_error (Between session sheet) failed (.refl _ _ _) fun d _ => renew_between builtin d
  refine ⟨d, member, ?_⟩
  have ends := revalue_ends builtin frame d
  -- Recording a value does not fail.
  rcases bind_eq_error.mp step with looked | ⟨v, between, -, made⟩
  · rw [looked] at ends
    exact ends
  · cases made

/--
With the built-in functions a recalculation either gives each dependent of a cell exactly one value,
failures of formulas included, or is stopped by a dependent that names no cell or whose formula is at
fault in a conversion or meets a moment with an offset.
-/
theorem recalculation_complete (builtin : session.evaluator.registry = .builtin) (sheet : Sheet)
    (id : String) :
    (∃ changes after, recalculateDependents sheet id session = (.ok changes, after) ∧
      (changes.map Prod.fst).Nodup ∧
      (∀ x, x ∈ changes.map Prod.fst ↔ x ∈ session.allDependents id ∧ x ≠ Text.upper id) ∧
      ∀ entry ∈ changes, Answers session sheet entry.1 entry.2) ∨
    ∃ e after d, recalculateDependents sheet id session = (.error e, after) ∧
      d ∈ session.allDependents id ∧ d ≠ Text.upper id ∧ Stops session sheet d e := by
  -- The outcome decides which of the two cases it is.
  cases run : recalculateDependents sheet id session with
  | mk outcome after =>
    cases outcome with
    | ok changes =>
      have keys := recalculateDependents_keys run
      refine .inl ⟨changes, after, rfl, ?_, fun x => ?_, recalculateDependents_answers builtin run⟩
      · -- The keys are those that the recalculation was to compute.
        exact keys ▸ nodup_affected session id
      · rw [keys, mem_affected_iff]
    | error e =>
      -- The dependent that stops is one of these.
      obtain ⟨d, member, stops⟩ := recalculateDependents_stops builtin run
      obtain ⟨depends, other⟩ := mem_affected_iff.mp member
      exact .inr ⟨e, after, d, rfl, depends, other, stops⟩

/-- A sheet whose first cell holds a value that two formulas refer to. -/
def shared (v : Value) : Sheet :=
  -- Only one of the formulas needs a number.
  (((Grid.empty.put ⟨0, 0⟩ ⟨v, none, .number⟩).put ⟨1, 0⟩ ⟨.blank, some "=1/A1", .text⟩).put
    ⟨2, 0⟩ ⟨.blank, some "=A1", .text⟩).sheet

/-- A session that has evaluated one of the formulas. -/
def sharing : Session :=
  (evaluateOrError (shared (.whole 1)) "B1" "=1/A1" (start (.builtin 100) Cache.usualAge)).2

/-- A session that has evaluated both formulas. -/
def shares : Session := (evaluateOrError (shared (.whole 1)) "C1" "=A1" sharing).2

private theorem evaluateOrError_evaluator (evaluator : Evaluator) (sheet : Sheet)
    (d : CellId) (formula : String) :
    Keeps (fun session => session.evaluator = evaluator) (evaluateOrError sheet d formula) :=
  evaluateOrError_keeps_of (fun _ same => same) fun _ _ same => same

theorem shares_evaluator : shares.evaluator = .builtin 100 := by
  -- Neither evaluation changes the functions.
  refine evaluateOrError_evaluator _ _ _ _ sharing ?_
  exact evaluateOrError_evaluator _ _ _ _ (start (.builtin 100) Cache.usualAge) rfl

/-- With a zero one of the formulas fails, and both cells get a value all the same. -/
theorem recalculation_complete_shares : shares.evaluator.registry = .builtin ∧
    ∃ changes after, recalculateDependents (shared (.whole 0)) "A1" shares = (.ok changes, after) ∧
      (changes.map Prod.fst).Nodup ∧
      (∀ x, x ∈ changes.map Prod.fst ↔ x ∈ shares.allDependents "A1" ∧ x ≠ Text.upper "A1") ∧
      ∀ entry ∈ changes, Answers shares (shared (.whole 0)) entry.1 entry.2 := by
  -- The run is only checked to succeed, not computed in full.
  have returns : (recalculateDependents (shared (.whole 0)) "A1" shares).1.isOk = true := by
    decide +kernel
  have builtin : shares.evaluator.registry = .builtin := by rw [shares_evaluator]; rfl
  refine ⟨builtin, (recalculation_complete builtin (shared (.whole 0)) "A1").resolve_right ?_⟩
  rintro ⟨e, after, d, failed, -⟩
  rw [failed] at returns
  cases returns

/-- With a text that only seems to be a number neither cell gets a value. -/
theorem recalculation_stopped : Reached shares ∧ shares.evaluator.registry = .builtin ∧
    (shares.allDependents "A1").toList = ["B1", "C1"] ∧
    (recalculateDependents (shared (.text "\x1c5")) "A1" shares).1 =
      .error (.fault (.notFloat "\x1c5")) := by
  -- The session is one that calls lead to.
  have reached : Reached shares :=
    .evaluateOrError (.evaluateOrError (.start _ _) (shared (.whole 1)) "B1" "=1/A1") _ "C1" "=A1"
  refine ⟨reached, by rw [shares_evaluator]; rfl, by decide +kernel, ?_⟩
  exact eq_error_of_map (f := fun _ => ()) (by decide +kernel)

end Session
end Spreadsheet
