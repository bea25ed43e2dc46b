import Spreadsheet.Proofs.Session

/-!
Values that are up to date: what a cell shows is what its formula means now, however long ago it was
computed. It stays so as long as nothing changes that the formula reads, directly or not.
-/

namespace Spreadsheet

open Relation DependencyGraph Session

variable {maxDepth : Int} {sheet other : Sheet} {p : Position} {formula : String} {v w : Value}

/-- A value is what the formula of a cell means now, or a text that stands for a failure of it. -/
inductive UpToDate (maxDepth : Int) (sheet : Sheet) (p : Position) (formula : String) (v : Value) :
    Prop where
  /-- The formula has a value, and no chain of references goes on forever. -/
  | value (meant : meaningOf maxDepth sheet p.id formula = .ok v)
    (ends : Terminates (Sheet.formulas sheet).Reads p.id)
  /-- The formula has no value, or a chain of references goes on forever. -/
  | failure {e : FormulaError} (fails : ∀ w, meaningOf maxDepth sheet p.id formula = .ok w →
      ¬ Terminates (Sheet.formulas sheet).Reads p.id) (shows : v = .text e.shown)

/-- A value is what a new evaluator gives for a formula: its value, or a text for its failure, of
whatever kind that is. -/
structure Fresh (maxDepth : Int) (sheet : Sheet) (id : CellId) (formula : String) (v : Value) :
    Prop where
  value : ∀ w, ((Evaluator.builtin maxDepth).evaluate sheet id formula .empty).1 = .ok w → v = w
  failure : ∀ e, ((Evaluator.builtin maxDepth).evaluate sheet id formula .empty).1 = .error e →
    ∃ text, v = .text ("#ERROR: " ++ text)

/-- What a new evaluator does with the formula of a cell of the sheet. -/
theorem evaluates_empty (maxDepth : Int) (named : p.Named)
    (has : Sheet.formulaAt sheet p = some formula) :
    Evaluates (Sheet.formulas sheet) maxDepth.toNat p.id .empty
      (meaningOf maxDepth sheet p.id formula)
      ((Evaluator.builtin maxDepth).evaluate sheet p.id formula .empty) :=
  -- Nothing is pending in the empty workspace, and the formulas are those of the sheet.
  Evaluator.evaluate_evaluates (.builtin maxDepth) Registry.plain_builtin named.onSheet rfl
    ((Sheet.formulas_id sheet named).trans has) (Evaluator.agrees_formulas sheet [p.id])

/-- Behind a cell without cycles of references a new evaluator gives what the formula means. -/
theorem evaluate_empty_of_acyclic (named : p.Named) (has : Sheet.formulaAt sheet p = some formula)
    (acyclic : ¬ CycleBehind (Sheet.formulas sheet).Reads p.id) :
    ((Evaluator.builtin maxDepth).evaluate sheet p.id formula .empty).1 =
      meaningOf maxDepth sheet p.id formula := by
  -- In an empty graph every cycle that is found is one of references.
  refine (evaluates_empty maxDepth named has).agrees.resolve_right ?_
  rintro ⟨e, -, reported⟩
  exact acyclic (reported.cycleBehind.mono fun x y => Known.of_empty)

/-- Where a new evaluator gives a value, that value is what is shown afresh. -/
theorem Fresh.of_ok
    (done : ((Evaluator.builtin maxDepth).evaluate sheet p.id formula .empty).1 = .ok v) :
    Fresh maxDepth sheet p.id formula v := by
  -- The evaluation has one outcome, and it is the value.
  refine ⟨fun w done' => ?_, fun e failed => ?_⟩
  · cases done.symm.trans done'
    rfl
  · cases done.symm.trans failed

/-- Where a new evaluator fails, any text that stands for a failure is what is shown afresh. -/
theorem Fresh.of_error {failure : Failure} {e : FormulaError}
    (failed : ((Evaluator.builtin maxDepth).evaluate sheet p.id formula .empty).1 = .error failure)
    (shows : v = .text e.shown) : Fresh maxDepth sheet p.id formula v := by
  refine ⟨fun w done => ?_, fun _ _ => ⟨_, shows⟩⟩
  -- Any failure is shown as some text, so only a value could contradict.
  cases failed.symm.trans done

namespace UpToDate

/-- A text for a failure is up to date where the formula has no value. -/
theorem of_error {failure : Failure} {e : FormulaError}
    (meant : meaningOf maxDepth sheet p.id formula = .error failure) (shows : v = .text e.shown) :
    UpToDate maxDepth sheet p formula v := by
  refine .failure (fun w done => ?_) shows
  cases meant.symm.trans done

/-- A value that comes from a formula is up to date where all that is recorded is referred to. -/
theorem of_yields {graph : DependencyGraph}
    (exact : ∀ x y, Known (Sheet.formulas sheet) graph p.id x y → (Sheet.formulas sheet).Reads x y)
    (yields : Yields (Sheet.formulas sheet) graph (meaningOf maxDepth sheet p.id formula) p.id v) :
    UpToDate maxDepth sheet p formula v := by
  cases yields with
  | value meant ends => exact .value meant ends
  | failure meant shows => exact of_error meant shows
  | cycle reported shows =>
    -- Behind a cycle of references some chain goes on forever.
    exact .failure (fun _ _ ends => ends.no_cycle (reported.cycleBehind.mono exact)) shows

/-- Without any depth every formula fails for its depth. -/
theorem meaningOf_shallow (shallow : maxDepth ≤ 0) (sheet : Sheet) (p : Position)
    (formula : String) :
    meaningOf maxDepth sheet p.id formula = .error (.formula (.tooDeep maxDepth p.id)) := by
  -- There is no room, so the first cell is already too deep.
  rw [meaningOf, Int.toNat_of_nonpos shallow]
  rfl

/-- Without any depth whatever comes from a formula is up to date. -/
theorem of_yields_shallow {graph : DependencyGraph} (shallow : maxDepth ≤ 0)
    (yields : Yields (Sheet.formulas sheet) graph (meaningOf maxDepth sheet p.id formula) p.id v) :
    UpToDate maxDepth sheet p formula v := by
  have deep := meaningOf_shallow shallow sheet p formula
  cases yields with
  | value meant ends => exact .value meant ends
  | failure meant shows => exact of_error deep shows
  | cycle reported shows => exact of_error deep shows

/-- Without any depth a value stays up to date whatever changes. -/
theorem of_shallow {formula' : String} (shallow : maxDepth ≤ 0)
    (old : UpToDate maxDepth sheet p formula v) : UpToDate maxDepth other p formula' v := by
  cases old with
  -- There was no value to be had, so what is shown is a text.
  | value meant _ => cases (meaningOf_shallow shallow sheet p formula).symm.trans meant
  | failure _ shows => exact of_error (meaningOf_shallow shallow other p formula') shows

/-- A value stays up to date where nothing changes that its formula reads, directly or not. -/
theorem congr (named : p.Named) (has : Sheet.formulaAt sheet p = some formula)
    (has' : Sheet.formulaAt other p = some formula)
    (same : ∀ q : Position, q.Named → TransGen (Sheet.formulas sheet).Reads p.id q.id →
      Sheet.seen sheet q = Sheet.seen other q) (old : UpToDate maxDepth sheet p formula v) :
    UpToDate maxDepth other p formula v := by
  -- The meaning of a formula depends only on what is seen behind its cell.
  have meaning : meaningOf maxDepth sheet p.id formula = meaningOf maxDepth other p.id formula :=
    Evaluator.meaningWithin_congr ((Sheet.formulas_id sheet named).trans has) same
  -- Every cell that is reached has the same formula in both sheets.
  have formulas : ∀ x, ReflTransGen (Sheet.formulas sheet).Reads p.id x →
      Sheet.formulas sheet x = Sheet.formulas other x := by
    intro x reached
    rcases reflTransGen_iff_eq_or_transGen.mp reached with rfl | further
    · rw [Sheet.formulas_id sheet named, Sheet.formulas_id other named, has, has']
    · obtain ⟨y, _, reads⟩ := TransGen.tail'_iff.mp further
      obtain ⟨q, named', rfl⟩ := reads.named
      rw [Sheet.formulas_id sheet named', Sheet.formulas_id other named']
      exact Sheet.formulaAt_congr (same q named' further)
  -- So the same chains of references start at the cell.
  have ends : Terminates (Sheet.formulas sheet).Reads p.id ↔
      Terminates (Sheet.formulas other).Reads p.id := by
    refine terminates_congr fun x y reached => ?_
    rw [Formulas.Reads, Formulas.Reads, Formulas.references_congr (formulas x reached)]
  cases old with
  | value meant finite => exact .value (meaning.symm.trans meant) (ends.mp finite)
  | failure fails shows =>
    exact .failure (fun w done finite => fails w (meaning.trans done) (ends.mpr finite)) shows

/-- A value that is up to date is what a new evaluator gives for the formula. -/
theorem fresh (named : p.Named) (has : Sheet.formulaAt sheet p = some formula)
    (current : UpToDate maxDepth sheet p formula v) : Fresh maxDepth sheet p.id formula v := by
  have evaluates := evaluates_empty maxDepth named has
  refine ⟨fun w done => ?_, fun e failed => ?_⟩
  · -- A value is what the formula means, and shows that every chain of references ends.
    have ends := evaluates.terminates w done
    have agrees := evaluates.agrees.resolve_right fun ⟨e, failed, _⟩ =>
      nomatch done.symm.trans failed
    have meant : meaningOf maxDepth sheet p.id formula = .ok w := agrees.symm.trans done
    cases current with
    | value meant' _ => exact Except.ok.inj (meant'.symm.trans meant)
    | failure fails _ => exact absurd ends (fails w meant)
  · cases current with
    | value meant ends =>
      -- Where there is a value no failure is meant, and no cycle is found.
      have agrees := (evaluate_empty_of_acyclic named has ends.no_cycle).symm.trans failed
      cases meant.symm.trans agrees
    | failure _ shows => exact ⟨_, shows⟩

end UpToDate
end Spreadsheet
