import Spreadsheet.Evaluator
import Spreadsheet.Proofs.Formulas
import Spreadsheet.Proofs.Function.Native
import Spreadsheet.Proofs.Step

/-!
What holds of every evaluation whatever the workspace it starts from: a property of the records that
it keeps however it ends, a property of the values that it gives, and the failures that it can end with.
All follow from the parts that the evaluation is made of.
-/

namespace Spreadsheet

open Evaluation

variable {α β : Type} {Inv : DependencyGraph → Prop} {Sound : α → Prop} {Proper : β → Prop}
  {Good : Value → Prop} {Allowed : Failure → Prop} {registry : Registry}

/--
An evaluation keeps a property of the records however it ends, gives sound values, and fails in allowed
ways alone.
-/
def Behaves (Inv : DependencyGraph → Prop) (Sound : α → Prop) (Allowed : Failure → Prop)
    (work : Evaluation α) : Prop :=
  -- What is pending does not matter.
  ∀ w, Inv w.graph → Inv (work w).2.graph ∧ Delivers Sound Allowed (work w).1

namespace Behaves

/-- A value changes nothing and is no failure. -/
theorem pure {a : α} (sound : Sound a) : Behaves Inv Sound Allowed (Pure.pure a : Evaluation α) :=
  fun _ inv => ⟨inv, sound⟩

/-- What is computed apart from the workspace ends as it does there. -/
theorem lift {x : Except Failure α} (delivers : Delivers Sound Allowed x) :
    Behaves Inv Sound Allowed (ofExcept x : Evaluation α) := by
  intro w inv
  -- Neither outcome goes through the workspace.
  cases x <;> exact ⟨inv, delivers⟩

/-- A refusal fails with its own reason. -/
theorem refuse {e : FormulaError} (allowed : Allowed (.formula e)) :
    Behaves Inv Sound Allowed (Evaluation.refuse e : Evaluation α) :=
  fun _ inv => ⟨inv, allowed⟩

/-- A change of the records keeps what holds of all changed records. -/
theorem changeGraph {change : DependencyGraph → DependencyGraph}
    (each : ∀ graph, Inv graph → Inv (change graph)) :
    Behaves Inv (fun _ => True) Allowed (Evaluation.changeGraph change) :=
  fun w inv => ⟨each w.graph inv, trivial⟩

/-- One evaluation after the other behaves if both do. -/
theorem bind {work : Evaluation α} {next : α → Evaluation β}
    (first : Behaves Inv Sound Allowed work)
    (second : ∀ a, Sound a → Behaves Inv Proper Allowed (next a)) :
    Behaves Inv Proper Allowed (work >>= next) := by
  intro w inv
  -- What the first evaluation leaves has the property, and the second one starts from there.
  obtain ⟨kept, delivers⟩ := first w inv
  rw [Stateful.bind_run]
  cases outcome : (work w).1 with
  | ok a => exact second a (delivers.of_ok outcome) _ kept
  | error e => exact ⟨kept, delivers.of_error outcome⟩

/-- A refusal ends whatever was to follow. -/
theorem refused {e : FormulaError} {next : α → Evaluation β} (allowed : Allowed (.formula e)) :
    Behaves Inv Proper Allowed (Evaluation.refuse e >>= next) :=
  fun _ inv => ⟨inv, allowed⟩

/-- Looking at the workspace changes nothing. -/
theorem look {next : Workspace → Evaluation β} (each : ∀ w, Behaves Inv Proper Allowed (next w)) :
    Behaves Inv Proper Allowed (get >>= next) :=
  fun w inv => each w w inv

/-- A list of evaluations behaves if each of them does. -/
theorem mapM {work : Position → Evaluation β} (ps : List Position)
    (each : ∀ p, Behaves Inv Proper Allowed (work p)) :
    Behaves Inv (fun bs => ∀ b ∈ bs, Proper b) Allowed (ps.mapM work) := by
  -- The induction is along the positions.
  induction ps with
  | nil => exact pure (by simp)
  | cons p rest ih =>
    rw [List.mapM_cons]
    exact (each p).bind fun b proper => ih.bind fun bs others =>
      pure (List.forall_mem_cons.mpr ⟨proper, others⟩)

/-- An evaluation behaves while one more cell is pending if it behaves without. -/
theorem inside {work : Evaluation α} (id : CellId) (behaves : Behaves Inv Sound Allowed work) :
    Behaves Inv Sound Allowed (Evaluation.inside id work) :=
  fun w inv => behaves { w with pending := id :: w.pending } inv

end Behaves

/-- Every cell without a formula holds a good value. -/
def Sheet.Holds (Good : Value → Prop) (sheet : Sheet) : Prop :=
  -- The values that cells with a formula hold are never read.
  ∀ p cell, sheet p = some cell → cell.activeFormula? = none → Good cell.value

/-- What an evaluator has to do with records, values and failures at each part of a formula. -/
structure Upholds (registry : Registry) (Inv : DependencyGraph → Prop) (Good : Value → Prop)
    (Allowed : Failure → Prop) : Prop where
  formula : ∀ e, Allowed (.formula e)
  reading : ∀ text, FailsOnly Allowed (Expr.ofFormula text)
  computed : ∀ {v : Value}, v.Computed → Good v
  list : ∀ {vs}, (∀ v ∈ vs, Good v) → Good (.list vs)
  apart : ∀ {vs}, (∀ v ∈ vs, Good v) → ∀ v ∈ Value.apart vs, Good v
  unary : ∀ (op : UnaryOp) {v}, Good v → Delivers Good Allowed (op.apply v)
  binary : ∀ (op : BinaryOp) {v w}, Good v → Good w → Delivers Good Allowed (op.apply v w)
  /-- A function is only called with as many arguments as it takes. -/
  call : ∀ name {f}, registry.find? name = some f → ∀ {vs : List Value}, (∀ v ∈ vs, Good v) →
    f.problem? vs.length = none → Delivers Good Allowed (f.call name vs)
  record : ∀ graph id text, Inv graph →
    Inv (graph.setDependencies id (Expr.referencesIn text) (some text))
  clear : Inv .empty

namespace Expr

variable {read : Position → Evaluation Value}

mutual
/-- Evaluating an expression behaves if reading cells does. -/
theorem evaluate_behaves (upholds : Upholds registry Inv Good Allowed)
    (each : ∀ p, Behaves Inv Good Allowed (read p)) (e : Expr) :
    Behaves Inv Good Allowed (e.evaluate registry read) := by
  -- The cases follow the expression.
  match e with
  | number _ | text _ | truth _ =>
    simp only [evaluate]
    exact .pure (upholds.computed trivial)
  | cell p =>
    simp only [evaluate]
    exact each p
  | area a =>
    simp only [evaluate]
    -- The values of an area are kept apart and put in a list.
    exact (Behaves.mapM a.positions each).bind fun vs good => .pure (upholds.list (upholds.apart good))
  | unary op operand =>
    simp only [evaluate]
    exact (evaluate_behaves upholds each operand).bind fun v good => .lift (upholds.unary op good)
  | binary op left right =>
    simp only [evaluate]
    have first := evaluate_behaves upholds each left
    have second := evaluate_behaves upholds each right
    -- Each operand gives a good value, and the operator is applied to both.
    exact first.bind fun v good => second.bind fun w good' => .lift (upholds.binary op good good')
  | call name arguments =>
    simp only [evaluate]
    cases found : registry.find? name with
    | none => exact .refuse (upholds.formula _)
    | some f =>
      refine (evaluateAll_behaves upholds each arguments).bind fun vs good => ?_
      -- Arguments that do not fit are refused before the function is called.
      cases fits : f.problem? (Value.apart vs).length with
      | some problem => exact .refuse (upholds.formula _)
      | none =>
        have called : Behaves Inv Good Allowed
            (ofExcept (f.call name (Value.apart vs)) : Evaluation Value) :=
          .lift (upholds.call name found (upholds.apart good) fits)
        dsimp only
        -- A function may forget what is recorded before it is computed.
        split
        · exact (Behaves.changeGraph fun _ _ => upholds.clear).bind fun _ _ => called
        · exact called

/-- Evaluating some expressions behaves if reading cells does. -/
theorem evaluateAll_behaves (upholds : Upholds registry Inv Good Allowed)
    (each : ∀ p, Behaves Inv Good Allowed (read p)) (es : List Expr) :
    Behaves Inv (fun vs => ∀ v ∈ vs, Good v) Allowed (evaluateAll registry read es) := by
  -- The cases follow the list.
  match es with
  | [] =>
    simp only [evaluateAll]
    exact .pure (by simp)
  | e :: rest =>
    simp only [evaluateAll]
    have first := evaluate_behaves upholds each e
    have others := evaluateAll_behaves upholds each rest
    exact first.bind fun v good => others.bind fun vs all =>
      .pure (List.forall_mem_cons.mpr ⟨good, all⟩)
end

end Expr

namespace Evaluator

variable {evaluator : Evaluator} {sheet : Sheet}

/-- Recording what a formula refers to behaves as reading the formula does. -/
theorem track_behaves (upholds : Upholds registry Inv Good Allowed) (id : CellId)
    (formula : String) : Behaves Inv (fun _ => True) Allowed (track id formula) := by
  unfold track
  -- Whether the formula is read or not, it is recorded with what it refers to.
  have record := fun graph inv => upholds.record graph id formula inv
  cases parsed : Expr.ofFormula formula with
  | ok e =>
    have references := Expr.referencesIn_of_ok parsed
    exact (Behaves.changeGraph (references ▸ record)).bind fun _ _ => .pure trivial
  | error failure =>
    have references := Expr.referencesIn_of_error parsed
    cases failure with
    | formula e =>
      exact (Behaves.changeGraph (references ▸ record)).bind fun _ _ => .refuse (upholds.formula e)
    | fault f =>
      -- A faulty literal leaves the records as they were.
      exact .lift (x := .error (.fault f)) ((upholds.reading formula).of_error parsed)

/-- Evaluating the formula of a cell behaves if reading cells does. -/
theorem evaluateFormula_behaves (upholds : Upholds evaluator.registry Inv Good Allowed)
    {read : Position → Evaluation Value} (each : ∀ p, Behaves Inv Good Allowed (read p)) (id : CellId)
    (formula : String) : Behaves Inv Good Allowed (evaluator.evaluateFormula read id formula) := by
  -- First the formula is recorded, and then the records are searched.
  refine (track_behaves upholds id formula).bind fun e _ => .look fun w => ?_
  cases w.graph.cycleFrom? id with
  | some cycle => exact .refuse (upholds.formula _)
  | none =>
    refine (Expr.evaluate_behaves upholds each e).bind fun v good => ?_
    -- A list is refused, anything else is the value.
    dsimp only
    split
    · exact .refused (upholds.formula _)
    · exact .pure good

/-- Reading a cell behaves if evaluating formulas does, and cells without a formula hold good values. -/
theorem readCell_behaves (upholds : Upholds registry Inv Good Allowed)
    (held : sheet.Holds Good) {evaluate : CellId → String → Evaluation Value}
    (each : ∀ id formula, Behaves Inv Good Allowed (evaluate id formula)) (p : Position) :
    Behaves Inv Good Allowed (readCell sheet evaluate p) := by
  unfold readCell
  -- An empty cell is computed to a blank, and any other one is looked at for a formula.
  split
  · exact .pure (upholds.computed trivial)
  · rename_i cell found
    split
    · exact each _ _
    · rename_i without
      exact .pure (held p cell found without)

/-- Evaluating a cell behaves, whatever room there is. -/
theorem evaluateWithin_behaves (upholds : Upholds evaluator.registry Inv Good Allowed)
    (held : sheet.Holds Good) (room : Nat) (id : CellId) (formula : String) :
    Behaves Inv Good Allowed (evaluator.evaluateWithin sheet room id formula) := by
  -- The induction is on the room; the cells that are read have less of it.
  induction room generalizing id formula with
  | zero =>
    rw [evaluateWithin]
    refine .look fun w => ?_
    -- A cell that is pending is refused before the depth is.
    split
    · exact .refused (upholds.formula _)
    · exact .refuse (upholds.formula _)
  | succ room ih =>
    rw [evaluateWithin]
    -- What is read inside has less room, and the induction is about that.
    have inner :=
      (evaluateFormula_behaves upholds (readCell_behaves upholds held ih) id formula).inside id
    refine .look fun w => ?_
    -- A pending cell is refused, any other one is evaluated with its id on the stack.
    split
    · exact .refused (upholds.formula _)
    · exact inner

/-- An evaluation behaves, whatever is recorded and pending when it starts. -/
theorem evaluate_behaves (upholds : Upholds evaluator.registry Inv Good Allowed)
    (held : sheet.Holds Good) (id formula : String) :
    Behaves Inv Good Allowed (evaluator.evaluate sheet id formula) :=
  .look fun _ => evaluateWithin_behaves upholds held _ _ _

end Evaluator
end Spreadsheet
