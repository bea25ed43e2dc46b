import Spreadsheet.Proofs.Evaluator.Within

/-!
What any evaluation leaves in the workspace, whatever is recorded and pending when it starts and
however it ends: the pending cells as they were, and what holds of the records if recording a formula
keeps it, such as that each of them is old or that of a formula.
-/

namespace Spreadsheet

open Relation DependencyGraph Evaluation Stateful

namespace Evaluation

/-- A computation has an outcome and leaves a workspace. -/
theorem exists_run {α : Type} (work : Evaluation α) (w : Workspace) :
    ∃ outcome after, work w = (outcome, after) :=
  ⟨_, _, rfl⟩

/-- What a computation does with one more cell pending, less that cell afterwards. -/
theorem inside_run {α : Type} {id : CellId} {work : Evaluation α} {w after : Workspace}
    {outcome : Except Failure α}
    (run : work { w with pending := id :: w.pending } = (outcome, after)) :
    inside id work w = (outcome, { after with pending := after.pending.tail }) := by
  unfold inside
  -- The definition runs the computation with the cell pending.
  rw [run]

/-- A property that an evaluation has if all the evaluations that it is made of have it. -/
structure Compositional (P : ∀ {α : Type}, Evaluation α → Prop) : Prop where
  /-- What is computed apart from the workspace has it. -/
  lift : ∀ {α : Type} (x : Except Failure α), P (ofExcept x : Evaluation α)
  bind : ∀ {α β : Type} {work : Evaluation α} {next : α → Evaluation β},
    P work → (∀ a, P (next a)) → P (work >>= next)

namespace Compositional

variable {P : ∀ {α : Type}, Evaluation α → Prop} {α β : Type}

theorem pure (composes : Compositional P) (a : α) : P (Pure.pure a : Evaluation α) :=
  composes.lift (.ok a)

theorem refuse (composes : Compositional P) (e : FormulaError) :
    P (Evaluation.refuse e : Evaluation α) :=
  composes.lift (.error (.formula e))

/-- A list of evaluations has the property if each of them has it. -/
theorem mapM (composes : Compositional P) {work : α → Evaluation β} (as : List α)
    (each : ∀ a ∈ as, P (work a)) : P (as.mapM work) := by
  -- The induction is along the list.
  induction as with
  | nil => exact composes.pure []
  | cons a rest ih =>
    rw [List.mapM_cons]
    have others := ih fun x member => each x (List.mem_cons_of_mem a member)
    exact composes.bind (each a List.mem_cons_self) fun b =>
      composes.bind others fun bs => composes.pure (b :: bs)

/-- Keeping an invariant is such a property. -/
theorem keeps (Inv : Workspace → Prop) : Compositional fun work => Keeps Inv work := by
  refine ⟨fun x w inv => ?_, .bind⟩
  -- Neither outcome touches the workspace.
  cases x <;> exact inv

end Compositional
end Evaluation

namespace Expr

variable {P : ∀ {α : Type}, Evaluation α → Prop} {Inv : Workspace → Prop} {registry : Registry}
  {read : Position → Evaluation Value}

mutual
/-- Evaluating an expression has a property of its parts if reading its cells has it. -/
theorem evaluate_composes (composes : Compositional P) (plain : registry.Plain) (e : Expr)
    (each : ∀ p ∈ e.positions, P (read p)) : P (e.evaluate registry read) := by
  -- The cases follow the expression.
  match e with
  | number _ | text _ | truth _ =>
    simp only [evaluate]
    exact composes.pure _
  | cell p =>
    simp only [evaluate]
    exact each p (by simp [positions])
  | area a =>
    simp only [evaluate]
    exact composes.bind (composes.mapM a.positions each) fun vs => composes.pure _
  | unary op operand =>
    simp only [evaluate]
    have inside := evaluate_composes composes plain operand each
    exact composes.bind inside fun v => composes.lift _
  | binary op left right =>
    simp only [evaluate]
    -- Both operands are read, and then the operator is applied apart from the workspace.
    have first := evaluate_composes composes plain left fun p member =>
      each p (List.mem_append_left _ member)
    have second := evaluate_composes composes plain right fun p member =>
      each p (List.mem_append_right _ member)
    exact composes.bind first fun v => composes.bind second fun w => composes.lift _
  | call name arguments =>
    simp only [evaluate]
    cases found : registry.find? name with
    | none => exact composes.refuse _
    | some f =>
      refine composes.bind (evaluateAll_composes composes plain arguments each) fun vs => ?_
      -- A plain function does not drop what is recorded.
      cases f.problem? (Value.apart vs).length with
      | some problem => exact composes.refuse _
      | none =>
        simp only [plain.keeps found]
        exact composes.lift _

/-- Evaluating some expressions has a property of its parts if reading their cells has it. -/
theorem evaluateAll_composes (composes : Compositional P) (plain : registry.Plain) (es : List Expr)
    (each : ∀ p ∈ positionsOfAll es, P (read p)) : P (evaluateAll registry read es) := by
  -- The cases follow the list.
  match es with
  | [] =>
    simp only [evaluateAll]
    exact composes.pure _
  | e :: rest =>
    simp only [evaluateAll]
    have first := evaluate_composes composes plain e fun p member =>
      each p (List.mem_append_left _ member)
    have others := evaluateAll_composes composes plain rest fun p member =>
      each p (List.mem_append_right _ member)
    exact composes.bind first fun v => composes.bind others fun vs => composes.pure _
end

/-- Evaluating an expression keeps what reading its cells does. -/
theorem evaluate_keeps (plain : registry.Plain) (e : Expr)
    (each : ∀ p ∈ e.positions, Keeps Inv (read p)) : Keeps Inv (e.evaluate registry read) :=
  evaluate_composes (.keeps Inv) plain e each

end Expr

/-- The pending cells are as given, and an invariant holds of the records. -/
def Pends (pending : List CellId) (Inv : DependencyGraph → Prop) (w : Workspace) : Prop :=
  -- An invariant may say how the records differ from those of a certain graph.
  w.pending = pending ∧ Inv w.graph

/-- What recording the formulas of the cells in a scope keeps; what those cells read is in the scope. -/
structure RecordingKeeps (formulas : Formulas) (Scope : CellId → Prop)
    (Inv : DependencyGraph → Prop) : Prop where
  reads : ∀ {a b}, Scope a → formulas.Reads a b → Scope b
  record : ∀ {graph x text}, Scope x → formulas x = some text → Inv graph →
    Inv (graph.setDependencies x (Expr.referencesIn text) (some text))

/-- Recording the formulas of any cells refreshes the records. -/
theorem recordingKeeps_refreshes (formulas : Formulas) (graph : DependencyGraph) :
    RecordingKeeps formulas (fun _ => True) (Refreshes formulas graph) :=
  ⟨fun _ _ => trivial, fun _ has kept => kept.trans (refreshes_setDependencies _ has)⟩

namespace Evaluator

variable {formulas : Formulas} {Scope : CellId → Prop} {Inv : DependencyGraph → Prop}
  {evaluator : Evaluator} {sheet : Sheet} {id : CellId} {formula : String} {room : Nat}
  {pending : List CellId} {w : Workspace}

/-- Formulas that agree where some cells are pending do so where one more is. -/
theorem Agrees.push (agree : Agrees formulas sheet pending) (x : CellId) :
    Agrees formulas sheet (x :: pending) :=
  fun q named free => agree q named fun member => free (List.mem_cons_of_mem x member)

/-- Evaluating an expression as a whole has a property of its parts if reading its cells has it. -/
theorem evaluateAlone_composes {P : ∀ {α : Type}, Evaluation α → Prop}
    {read : Position → Evaluation Value} (composes : Compositional P)
    (plain : evaluator.registry.Plain) (e : Expr) (each : ∀ p ∈ e.positions, P (read p)) :
    P (evaluator.evaluateAlone read e) := by
  -- Refusing a list changes nothing.
  refine composes.bind (Expr.evaluate_composes composes plain e each) fun v => ?_
  dsimp only
  split
  · exact composes.refuse _
  · exact composes.pure _

/-- Reading a cell has the property that evaluating its formula has, if it has one. -/
theorem readCell_composes {P : ∀ {α : Type}, Evaluation α → Prop} (composes : Compositional P)
    {nested : CellId → String → Evaluation Value} {p : Position}
    (each : ∀ own, Sheet.formulaAt sheet p = some own → P (nested p.id own)) :
    P (readCell sheet nested p) := by
  rw [readCell_eq_seen]
  -- What the cell shows tells whether a formula is evaluated.
  cases sees : Sheet.seen sheet p with
  | value v => exact composes.pure v
  | formula own => exact each own (Sheet.seen_eq_formula.mp sees)

/-- Where a cell has a formula it is the one that is evaluated, or the cell is pending. -/
theorem Agrees.formula_or_pending {p : Position} {own : String}
    (agree : Agrees formulas sheet pending) (named : p.Named)
    (has : Sheet.formulaAt sheet p = some own) : formulas p.id = some own ∨ p.id ∈ pending := by
  -- Where the cell is not pending, the formula is the one of the sheet.
  by_cases waits : p.id ∈ pending
  · exact .inr waits
  · exact .inl ((agree p named waits).trans has)

/-- Reading the cells of a formula in a scope keeps what evaluating their formulas does. -/
theorem reads_pend {nested : CellId → String → Evaluation Value} {e : Expr}
    (kept : RecordingKeeps formulas Scope Inv) (scope : Scope id) (has : formulas id = some formula)
    (agree : Agrees formulas sheet pending) (parsed : Expr.ofFormula formula = .ok e)
    (inner : ∀ (p : Position) own, p.Named → formulas p.id = some own ∨ p.id ∈ pending →
      Scope p.id → Agrees formulas sheet (p.id :: pending) →
      Keeps (Pends pending Inv) (nested p.id own)) :
    ∀ p ∈ e.positions, Keeps (Pends pending Inv) (readCell sheet nested p) := by
  intro p member
  have named := (Expr.ofFormula_delivers formula).of_ok parsed p member
  -- What the formula reads stays in the scope, and has one more cell pending around it.
  have reads : formulas.Reads id p.id := (Formulas.reads_iff has parsed).mpr ⟨p, member, rfl⟩
  refine readCell_composes (.keeps (Pends pending Inv)) fun own stands => ?_
  exact inner p own named (agree.formula_or_pending named stands) (kept.reads scope reads)
    (agree.push p.id)

/-- Evaluating a formula keeps what recording it and reading its cells do. -/
theorem evaluateFormula_pends {read : Position → Evaluation Value}
    (plain : evaluator.registry.Plain)
    (record : ∀ graph, Inv graph →
      Inv (graph.setDependencies id (Expr.referencesIn formula) (some formula)))
    (each : ∀ e, Expr.ofFormula formula = .ok e →
      ∀ p ∈ e.positions, Keeps (Pends pending Inv) (read p)) :
    Keeps (Pends pending Inv) (evaluator.evaluateFormula read id formula) := by
  intro w before
  -- The record of the cell comes first, if the formula can be read at all.
  have recorded := record w.graph before.2
  cases parsed : Expr.ofFormula formula with
  | error failure =>
    cases failure with
    | fault f =>
      rw [evaluateFormula_of_fault parsed]
      -- The fault is found while the text is read, before anything is recorded.
      exact before
    | formula e =>
      rw [Expr.referencesIn_of_error parsed] at recorded
      rw [evaluateFormula_of_unread parsed]
      -- The cell is recorded without references.
      exact ⟨before.1, recorded⟩
  | ok e =>
    rw [Expr.referencesIn_of_ok parsed] at recorded
    rw [evaluateFormula_of_ok parsed _ rfl]
    dsimp only
    -- The search may end the evaluation right after the record.
    split
    · exact ⟨before.1, recorded⟩
    · -- From here on every cell that is read keeps what has been recorded.
      exact evaluateAlone_composes (.keeps (Pends pending Inv)) plain e (each e parsed) _
        ⟨before.1, recorded⟩

/--
With any room, evaluating the formula of a cell in a scope leaves the pending cells as they were and
keeps what recording the formulas in the scope does. A cell that is pending already may be asked for
with any formula.
-/
theorem evaluateWithin_pends (plain : evaluator.registry.Plain)
    (kept : RecordingKeeps formulas Scope Inv) (scope : Scope id)
    (has : formulas id = some formula ∨ id ∈ pending)
    (agree : Agrees formulas sheet (id :: pending)) :
    Keeps (Pends pending Inv) (evaluator.evaluateWithin sheet room id formula) := by
  -- The induction is on the room; the cells that are read have less of it.
  induction room generalizing id formula pending with
  | zero =>
    intro w before
    -- Without room a cell is refused, and nothing changes.
    rw [evaluateWithin_zero_workspace]
    exact before
  | succ room ih =>
    rintro w ⟨rfl, inv⟩
    by_cases waits : id ∈ w.pending
    · -- A pending cell is refused as well, whatever formula was given for it.
      rw [evaluateWithin_of_pending waits]
      exact ⟨rfl, inv⟩
    · rw [evaluateWithin_succ waits]
      have has := has.resolve_right waits
      have inner := evaluateFormula_pends plain (fun graph => kept.record scope has)
        (fun e parsed => reads_pend kept scope has agree parsed
          fun p own _ has scope agree => ih scope has agree)
        { w with pending := id :: w.pending } ⟨rfl, inv⟩
      -- The cell that was pending inside is taken away.
      exact ⟨congrArg List.tail inner.1, inner.2⟩

/--
With any room, evaluating a formula leaves the pending cells as they were and records nothing but what
formulas say.
-/
theorem evaluateWithin_within (plain : evaluator.registry.Plain)
    (has : formulas id = some formula ∨ id ∈ w.pending)
    (agree : Agrees formulas sheet (id :: w.pending)) :
    Within formulas w.graph w.pending (evaluator.evaluateWithin sheet room id formula w).2 :=
  evaluateWithin_pends plain (recordingKeeps_refreshes formulas w.graph) trivial has agree w
    ⟨rfl, .refl _ _⟩

/--
Evaluating a formula for any id leaves the pending cells as they were, and each record is the old one
or what the given formula or one of the sheet says.
-/
theorem evaluate_within (plain : evaluator.registry.Plain) {id formula : String}
    (has : formulas (Text.upper id) = some formula)
    (agree : Agrees formulas sheet (Text.upper id :: w.pending)) :
    Within formulas w.graph w.pending (evaluator.evaluate sheet id formula w).2 :=
  evaluateWithin_within plain (.inl has) agree

end Evaluator
end Spreadsheet
