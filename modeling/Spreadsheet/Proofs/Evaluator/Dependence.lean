import Spreadsheet.Proofs.Evaluator.Within

/-!
What an evaluation depends on: the cells that its formula refers to, and those that their formulas
refer to in turn. Where two sheets agree on all of these, everything an evaluation does is the same.
-/

namespace Spreadsheet

namespace Expr

variable {registry : Registry} {read read' : Position → Evaluation Value}

mutual
/-- Evaluating an expression depends on reading the positions in it and no others. -/
theorem evaluate_congr (e : Expr) (same : ∀ p ∈ e.positions, read p = read' p) :
    e.evaluate registry read = e.evaluate registry read' := by
  -- The cases follow the expression.
  match e with
  | number _ | text _ | truth _ => simp only [evaluate]
  | cell p => simpa only [evaluate] using same p (by simp [positions])
  | area a =>
    have values : a.positions.mapM read = a.positions.mapM read' := mapM_congr same
    simp only [evaluate, values]
  | unary op operand => simp only [evaluate, evaluate_congr operand same]
  | binary op left right =>
    have first := evaluate_congr left fun p member => same p (List.mem_append_left _ member)
    have second := evaluate_congr right fun p member => same p (List.mem_append_right _ member)
    simp only [evaluate, first, second]
  | call name arguments => simp only [evaluate, evaluateAll_congr arguments same]

/-- Evaluating some expressions depends on reading the positions in them and no others. -/
theorem evaluateAll_congr (es : List Expr)
    (same : ∀ p ∈ positionsOfAll es, read p = read' p) :
    evaluateAll registry read es = evaluateAll registry read' es := by
  -- The cases follow the list.
  match es with
  | [] => simp only [evaluateAll]
  | e :: rest =>
    have first := evaluate_congr e fun p member => same p (List.mem_append_left _ member)
    have others := evaluateAll_congr rest fun p member => same p (List.mem_append_right _ member)
    simp only [evaluateAll, first, others]
end

end Expr

/-- The cells that a formula reads on a sheet, itself or through the formulas of other cells. -/
inductive Sheet.Behind (sheet : Sheet) (formula : String) : Position → Prop where
  /-- The formula refers to the cell. -/
  | direct {p : Position} (named : p.Named) (refers : p.id ∈ Expr.referencesIn formula) :
    Behind sheet formula p
  /-- The formula of a cell that is read refers to the cell. -/
  | through {p q : Position} {own : String} (behind : Behind sheet formula p)
    (has : formulaAt sheet p = some own) (named : q.Named) (refers : q.id ∈ Expr.referencesIn own) :
    Behind sheet formula q

/-- Whatever lies behind a formula has a name. -/
theorem Sheet.Behind.named {sheet : Sheet} {formula : String} {p : Position}
    (behind : Sheet.Behind sheet formula p) : p.Named := by
  -- In either case the last formula on the way refers to the cell.
  cases behind with
  | direct named _ => exact named
  | through _ _ named _ => exact named

namespace Evaluator

variable {evaluator : Evaluator} {sheet other : Sheet} {id : CellId} {formula : String}

/-- Evaluating the formula of a pending cell depends on reading the positions in it. -/
theorem evaluateFormula_congr {read read' : Position → Evaluation Value}
    (same : ∀ p : Position, p.Named → p.id ∈ Expr.referencesIn formula → read p = read' p) :
    evaluator.evaluateFormula read id formula = evaluator.evaluateFormula read' id formula := by
  funext w
  cases parsed : Expr.ofFormula formula with
  | error failure =>
    -- Nothing is read for a formula that is no expression.
    cases failure with
    | formula e => rw [evaluateFormula_of_unread parsed, evaluateFormula_of_unread parsed]
    | fault f => rw [evaluateFormula_of_fault parsed, evaluateFormula_of_fault parsed]
  | ok e =>
    have alone : evaluator.evaluateAlone read e = evaluator.evaluateAlone read' e := by
      have values : e.evaluate evaluator.registry read = e.evaluate evaluator.registry read' := by
        refine Expr.evaluate_congr e fun p member => ?_
        have named := (Expr.ofFormula_delivers formula).of_ok parsed p member
        exact same p named (Expr.mem_referencesIn parsed member)
      rw [evaluateAlone, evaluateAlone, values]
    rw [evaluateFormula_of_ok parsed _ rfl, evaluateFormula_of_ok parsed _ rfl, alone]

/-- With any room, evaluating a cell depends on what is seen behind its formula. -/
theorem evaluateWithin_congr (room : Nat)
    (same : ∀ p, Sheet.Behind sheet formula p → Sheet.seen sheet p = Sheet.seen other p) :
    evaluator.evaluateWithin sheet room id formula =
      evaluator.evaluateWithin other room id formula := by
  -- The induction is on the room; the cells that are read have less of it.
  induction room generalizing id formula with
  | zero => rfl
  | succ room ih =>
    have reads : ∀ p : Position, p.Named → p.id ∈ Expr.referencesIn formula →
        readCell sheet (evaluator.evaluateWithin sheet room) p =
          readCell other (evaluator.evaluateWithin other room) p := by
      intro p named refers
      have here : Sheet.Behind sheet formula p := .direct named refers
      rw [readCell_eq_seen, readCell_eq_seen, ← same p here]
      cases sees : Sheet.seen sheet p with
      | value v => rfl
      | formula own =>
        -- Whatever lies behind the formula of that cell lies behind this one.
        refine ih fun q behind => same q ?_
        have has := Sheet.seen_eq_formula.mp sees
        clear sees
        induction behind with
        | direct named' refers' => exact .through here has named' refers'
        | through _ has' named' refers' inner => exact .through inner has' named' refers'
    rw [evaluateWithin, evaluateWithin, evaluateFormula_congr reads]

/--
Two sheets on which the same is seen at every cell behind a formula, a formula or else a value, cannot
be told apart by evaluating it: whatever is recorded and pending, the outcome is the same, and so is
everything that is recorded afterwards.
-/
theorem evaluate_eq_of_seen (evaluator : Evaluator) (id formula : String)
    (same : ∀ p, Sheet.Behind sheet formula p → Sheet.seen sheet p = Sheet.seen other p)
    (w : Workspace) :
    evaluator.evaluate sheet id formula w = evaluator.evaluate other id formula w := by
  -- The id is put in upper case first, and the room is the same on both sides.
  show evaluator.evaluateWithin sheet _ (Text.upper id) formula w =
    evaluator.evaluateWithin other _ (Text.upper id) formula w
  rw [evaluateWithin_congr _ same]

/-- A sheet whose second cell refers to the first one, and a third cell that holds a value. -/
def besides (v : Value) : Sheet :=
  -- Nothing refers to the third cell.
  (((Grid.empty.put ⟨0, 0⟩ ⟨.whole 2, none, .number⟩).put ⟨1, 0⟩ ⟨.blank, some "=A1+1", .text⟩).put
    ⟨2, 0⟩ ⟨v, none, .number⟩).sheet

/-- What a formula that refers to the second cell evaluates to does not depend on the third one. -/
theorem evaluate_eq_of_seen_besides :
    (∀ p, Sheet.Behind (besides (.whole 5)) "=B1" p →
      Sheet.seen (besides (.whole 5)) p = Sheet.seen (besides (.whole 6)) p) ∧
    (builtin 100).evaluate (besides (.whole 5)) "D1" "=B1" .empty =
      (builtin 100).evaluate (besides (.whole 6)) "D1" "=B1" .empty := by
  -- Behind the formula there are just the two cells, which are the same on both sheets.
  have behind : ∀ p, Sheet.Behind (besides (.whole 5)) "=B1" p → p = ⟨1, 0⟩ ∨ p = ⟨0, 0⟩ := by
    intro p reached
    induction reached with
    | direct named refers =>
      have only : Expr.referencesIn "=B1" = [(⟨1, 0⟩ : Position).id] := by decide +kernel
      rw [only, List.mem_singleton] at refers
      exact .inl (Position.id_inj named.onSheet ⟨by decide, by decide⟩ refers)
    | through _ has named refers known =>
      -- Of the two cells the second one alone has a formula.
      rcases known with rfl | rfl
      · obtain rfl : "=A1+1" = _ := Option.some.inj has
        have only : Expr.referencesIn "=A1+1" = [(⟨0, 0⟩ : Position).id] := by decide +kernel
        rw [only, List.mem_singleton] at refers
        exact .inr (Position.id_inj named.onSheet ⟨by decide, by decide⟩ refers)
      · cases has
  have same : ∀ p, Sheet.Behind (besides (.whole 5)) "=B1" p →
      Sheet.seen (besides (.whole 5)) p = Sheet.seen (besides (.whole 6)) p := by
    intro p reached
    rcases behind p reached with rfl | rfl <;> rfl
  exact ⟨same, evaluate_eq_of_seen (builtin 100) "D1" "=B1" same .empty⟩

end Evaluator
end Spreadsheet
