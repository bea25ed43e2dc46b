import Spreadsheet.Proofs.Evaluator.Guarded
import Spreadsheet.Proofs.Grid

/-!
Which records an evaluation changes, whatever was recorded before: however it ends, none but those of
the cells that it can reach, and with a value those of all of them.
-/

namespace Spreadsheet

open Relation DependencyGraph Evaluation Stateful

variable {formulas : Formulas} {graph : DependencyGraph} {evaluator : Evaluator} {sheet : Sheet}
  {request : Request} {a x : CellId} {c p : Position} {formula own text : String} {v : Value}
  {after : Workspace}

namespace DependencyGraph

/-- The record of a cell has the references of a formula and its text. -/
structure Holds (graph : DependencyGraph) (x : CellId) (text : String) : Prop where
  dependencies : graph.dependenciesOf x = Std.ExtTreeSet.ofList (Expr.referencesIn text)
  formula : graph.formulaOf x = some text

/-- A record that is current has the references and the text of the cell's formula. -/
theorem Current.holds (current : Current formulas graph x) (has : formulas x = some text) :
    graph.Holds x text :=
  ⟨by rw [current.dependencies, Formulas.references_of_some has], current.formula.trans has⟩

end DependencyGraph

/-- Recording the formulas of the cells that a cell leads to leaves the records of all others. -/
theorem recordingKeeps_sameRecord (outside : ¬ ReflTransGen formulas.Reads a x) :
    RecordingKeeps formulas (ReflTransGen formulas.Reads a)
      (fun later => SameRecord graph later x) := by
  refine ⟨fun reached reads => reached.tail reads, fun {later y own} reached has same => ?_⟩
  -- No cell that is recorded on the way is the one outside.
  have apart : x ≠ y := fun here => outside (here ▸ reached)
  exact ⟨by simpa [apart] using same.dependencies, by simpa [apart] using same.formula⟩

/-- Recording the formulas of any cells leaves a record current. -/
theorem recordingKeeps_current (formulas : Formulas) (x : CellId) :
    RecordingKeeps formulas (fun _ => True) (fun graph => Current formulas graph x) :=
  ⟨fun _ _ => trivial, fun _ has current => (refreshes_setDependencies _ has).current current⟩

namespace Evaluator

/-- Once a proper request has a value, the record of each formula that it leads to is current. -/
theorem current_of_answered (plain : evaluator.registry.Plain)
    (proper : request.Proper formulas sheet)
    (done : evaluator.answer sheet request = (.ok v, after))
    (reached : ReflTransGen formulas.Reads request.id x) (has : formulas x = some text) :
    Current formulas after.graph x := by
  -- The induction is on the evaluations inside the request, of which there is no infinite chain.
  induction request using (wellFounded_inner plain sheet).induction generalizing v after with
  | _ request ih =>
    cases Ends.of_answer done with
    | @evaluated e _ last accepted parsed acyclic run =>
      -- The evaluation has read all references of its expression, and kept whatever was current.
      have evaluated := evaluate_of_evaluateAlone run
      have kept := proper.reads_pend plain parsed (recordingKeeps_current formulas x) trivial
      suffices Pends (request.id :: request.workspace.pending) (Current formulas · x) last from this.2
      rcases ReflTransGen.cases_head reached with rfl | ⟨y, reads, onwards⟩
      · -- The cell itself has been recorded before anything was read.
        have keeps := Expr.evaluate_keeps plain e kept
        simpa only [evaluated] using keeps (request.entered e) ⟨rfl, (proper.entered parsed).2⟩
      · -- What is reached through a cell was made current by reading that cell.
        obtain ⟨p, member, rfl⟩ := (Formulas.reads_iff proper.has parsed).mp reads
        refine e.holds_of_answered plain kept evaluated member fun u v u' asks answered => ?_
        obtain ⟨named, pending⟩ := asks_named plain request parsed asks
        have unwound := readCell_pending plain sheet _ p u pending
        rw [answered] at unwound
        refine ⟨unwound, ?_⟩
        -- The formula that the cell shows is the one that is recorded for it.
        have same := proper.formula_eq parsed acyclic member
        cases stands : Sheet.formulaAt sheet p with
        | none =>
          have without := same.trans stands
          cases Formulas.eq_of_reaches without onwards
          cases without.symm.trans has
        | some own =>
          have starts : Inner evaluator sheet request ⟨p.id, own, u⟩ :=
            ⟨accepted, parsed, acyclic, asks, stands⟩
          rw [readCell_eq_answer plain named.onSheet stands] at answered
          exact ih _ starts (proper.started plain starts) answered onwards

/-- An evaluation leaves the record of a cell that its own cell does not lead to. -/
theorem sameRecord_of_unreached (plain : evaluator.registry.Plain) (on : c.OnSheet)
    (apart : x ≠ c.id) (unreached : ¬ TransGen (ReadsWith sheet c.id formula) c.id x) :
    SameRecord graph (evaluator.evaluate sheet c.id formula ⟨graph, []⟩).2.graph x := by
  -- The formula is put in the place of that of the cell; the references follow from there.
  have same : Text.upper c.id = c.id := Position.upper_id on
  have outside : ¬ ReflTransGen (Sheet.formulasWith sheet c.id formula).Reads c.id x := by
    rw [reflTransGen_iff_eq_or_transGen, ← ReadsWith.transGen_iff]
    exact not_or.mpr ⟨apart, unreached⟩
  have has : Sheet.formulasWith sheet c.id formula (Text.upper c.id) = some formula := if_pos same
  have agree : Agrees (Sheet.formulasWith sheet c.id formula) sheet [Text.upper c.id] := by
    rw [same]
    exact agrees_formulasWith sheet c.id formula
  have begun : ReflTransGen (Sheet.formulasWith sheet c.id formula).Reads c.id (Text.upper c.id) := by
    rw [same]
  -- Recording on the way keeps this record, since no cell on the way is the one apart.
  exact (evaluate_pends plain (recordingKeeps_sameRecord outside) begun (.inl has) agree ⟨graph, []⟩
    ⟨rfl, rfl, rfl⟩).2

/-- With a value, the record of a cell with a formula that the evaluated one leads to holds it. -/
theorem holds_of_reached (plain : evaluator.registry.Plain) (on : c.OnSheet) (onSheet : p.OnSheet)
    (stands : Sheet.formulaAt sheet p = some own)
    (reached : TransGen (ReadsWith sheet c.id formula) c.id p.id) (apart : p.id ≠ c.id)
    (done : (evaluator.evaluate sheet c.id formula ⟨graph, []⟩).1 = .ok v) :
    (evaluator.evaluate sheet c.id formula ⟨graph, []⟩).2.graph.Holds p.id own := by
  -- What is reached has a name, by which the formula of its cell is found.
  obtain ⟨y, -, last⟩ := TransGen.tail'_iff.mp reached
  obtain ⟨q, named, same⟩ := last.named
  cases Position.id_inj named.onSheet onSheet same
  have has : Sheet.formulasWith sheet c.id formula p.id = some own := by
    rw [Sheet.formulasWith, if_neg apart, Sheet.formulas_id sheet named, stands]
  have way := (ReadsWith.transGen_iff.mp reached).to_reflTransGen
  rw [evaluate_eq_answer plain, Position.upper_id on] at done ⊢
  have proper := Request.Proper.outermost sheet c.id formula graph
  exact (current_of_answered plain proper (Prod.ext done rfl) way has).holds has

/--
The records that an evaluation with some depth changes. However it ends, those of cells that are not
reached by references stay as they were. With a value, the cell and every cell with a formula that is
reached have the references and the text of their formulas; with a failure of formulas the cell has.
-/
theorem evaluate_records (maxDepth : Int) (deep : 1 ≤ maxDepth) (sheet : Sheet) {c : Position}
    (on : c.OnSheet) (formula : String) (graph : DependencyGraph) :
    (∀ x, x ≠ c.id → ¬ TransGen (ReadsWith sheet c.id formula) c.id x →
      SameRecord graph ((builtin maxDepth).evaluate sheet c.id formula ⟨graph, []⟩).2.graph x) ∧
    (∀ v, ((builtin maxDepth).evaluate sheet c.id formula ⟨graph, []⟩).1 = .ok v →
      ((builtin maxDepth).evaluate sheet c.id formula ⟨graph, []⟩).2.graph.Holds c.id formula ∧
      ∀ (p : Position) own, p.OnSheet → Sheet.formulaAt sheet p = some own →
        TransGen (ReadsWith sheet c.id formula) c.id p.id →
        ((builtin maxDepth).evaluate sheet c.id formula ⟨graph, []⟩).2.graph.Holds p.id own) ∧
    ∀ e, ((builtin maxDepth).evaluate sheet c.id formula ⟨graph, []⟩).1 = .error (.formula e) →
      ((builtin maxDepth).evaluate sheet c.id formula ⟨graph, []⟩).2.graph.Holds c.id formula := by
  -- The functions that are built in change no record by themselves.
  have plain : (builtin maxDepth).registry.Plain := Registry.plain_builtin
  have has : Sheet.formulasWith sheet c.id formula c.id = some formula := if_pos rfl
  have evaluates := evaluate_evaluates (builtin maxDepth) plain on (w := ⟨graph, []⟩) rfl has
    (agrees_formulasWith sheet c.id formula)
  have room : 0 < (builtin maxDepth).maxDepth.toNat := Int.lt_toNat.mpr deep
  refine ⟨fun x apart unreached => sameRecord_of_unreached plain on apart unreached,
    fun v done => ⟨?_, fun p own onSheet stands reached => ?_⟩, fun e failed => ?_⟩
  · -- With some depth the cell is entered, and it is recorded before anything can go wrong.
    exact (evaluates.current room (by simp [done])).holds has
  · -- A cell that leads back to itself has no value.
    have apart : p.id ≠ c.id := by
      intro here
      refine (evaluates.terminates v done).no_cycle ⟨c.id, .refl, ?_⟩
      exact ReadsWith.transGen_iff.mp (here ▸ reached)
    exact holds_of_reached plain on onSheet stands reached apart done
  · exact (evaluates.current room (by simp [failed])).holds has

/-- Records of a cell that is reached from the third one of a sheet, and of one that is not. -/
def older : DependencyGraph :=
  (DependencyGraph.empty.setDependencies "Z9" ["C1"] (some "=C1")).setDependencies "A1" ["Y8"]
    (some "=Y8")

/-- No formula of the sheet or of its third cell refers to the cell that is not reached. -/
theorem steps_unreached : ¬ TransGen (ReadsWith steps (⟨2, 0⟩ : Position).id "=B1")
    (⟨2, 0⟩ : Position).id "Z9" := by
  -- One case for the formula that is given and one for each formula of the sheet.
  intro reached
  obtain ⟨y, -, last⟩ := TransGen.tail'_iff.mp reached
  cases last with
  | given refers => exact absurd refers (by decide +kernel)
  | other on apart has refers =>
    rename_i p own
    simp only [Sheet.formulaAt, steps, Grid.sheet, Grid.cellAt_put] at has
    split at has
    · cases has
      exact absurd refers (by decide +kernel)
    · split at has
      · cases has
        exact absurd refers (by decide +kernel)
      · cases has

/-- A value two references away brings the record of the first cell up to date, and no other one. -/
theorem evaluate_records_steps : (1 : Int) ≤ 3 ∧ (⟨2, 0⟩ : Position).OnSheet ∧
    ((builtin 3).evaluate steps (⟨2, 0⟩ : Position).id "=B1" ⟨older, []⟩).1 = .ok (.number (.whole 1)) ∧
    ((builtin 3).evaluate steps (⟨2, 0⟩ : Position).id "=B1" ⟨older, []⟩).2.graph.Holds
      (⟨0, 0⟩ : Position).id "=1" ∧
    SameRecord older
      ((builtin 3).evaluate steps (⟨2, 0⟩ : Position).id "=B1" ⟨older, []⟩).2.graph "Z9" := by
  -- The way leads from the third cell over the second to the first.
  have deep : (1 : Int) ≤ 3 := by decide
  have on : (⟨2, 0⟩ : Position).OnSheet := ⟨by decide, by decide⟩
  have done : ((builtin 3).evaluate steps (⟨2, 0⟩ : Position).id "=B1" ⟨older, []⟩).1 =
      .ok (.number (.whole 1)) := by with_unfolding_all rfl
  have enter : ReadsWith steps (⟨2, 0⟩ : Position).id "=B1" (⟨2, 0⟩ : Position).id
      (⟨1, 0⟩ : Position).id := .given (by decide +kernel)
  have onwards : ReadsWith steps (⟨2, 0⟩ : Position).id "=B1" (⟨1, 0⟩ : Position).id
      (⟨0, 0⟩ : Position).id :=
    .other ⟨by decide, by decide⟩ (by decide +kernel) rfl (by decide +kernel)
  -- The record of the cell that is not reached stays, and that of the first cell becomes current.
  obtain ⟨frame, value, -⟩ := evaluate_records 3 deep steps on "=B1" older
  refine ⟨deep, on, done, ?_, frame "Z9" (by decide +kernel) steps_unreached⟩
  exact (value _ done).2 ⟨0, 0⟩ "=1" ⟨by decide, by decide⟩ rfl (.head enter (.single onwards))

end Evaluator
end Spreadsheet
