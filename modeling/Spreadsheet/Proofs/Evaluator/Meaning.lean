import Spreadsheet.Evaluator
import Spreadsheet.Proofs.Formulas

/-!
What a formula means when nothing is recorded and no cycle is looked for: its value, with limited
depth, as a function of what the cells of the sheet show.
-/

namespace Spreadsheet

open Relation

namespace Expr

variable {registry : Registry} {value value' : Position → Except Failure Value}

mutual
/-- The value of an expression when the cell at each position has a value of its own. -/
def meaning (registry : Registry) (value : Position → Except Failure Value) :
    Expr → Except Failure Value
  -- Operands and arguments are taken from left to right, all of them before they are combined.
  | number n => return .number n
  | text s => return .text s
  | truth b => return .truth b
  | cell p => value p
  | area a => do return .list (Value.apart (← a.positions.mapM value))
  | unary op operand => do
    let v ← meaning registry value operand
    op.apply v
  | binary op left right => do
    let v ← meaning registry value left
    let w ← meaning registry value right
    op.apply v w
  | call name arguments =>
    match registry.find? name with
    | none => throw (.formula (.unknownFunction name))
    | some f => do
      let vs ← meanings registry value arguments
      match f.problem? (Value.apart vs).length with
      | some problem => throw (.formula (.badArguments name problem))
      | none => f.call name (Value.apart vs)

/-- The values of some expressions, from left to right. -/
def meanings (registry : Registry) (value : Position → Except Failure Value) :
    List Expr → Except Failure (List Value)
  -- The first failure ends it.
  | [] => return []
  | e :: rest => do
    let v ← meaning registry value e
    let vs ← meanings registry value rest
    return v :: vs
end

/-- Computations that agree on every position of a list agree on the list. -/
theorem mapM_congr {m : Type → Type} [Monad m] [LawfulMonad m] {β : Type} {ps : List Position}
    {work work' : Position → m β} (same : ∀ p ∈ ps, work p = work' p) :
    ps.mapM work = ps.mapM work' := by
  -- The induction is along the positions, each of which has its own computation.
  induction ps with
  | nil => rfl
  | cons p rest ih =>
    have others := ih fun q member => same q (by simp [member])
    rw [List.mapM_cons, List.mapM_cons, same p (by simp), others]

mutual
/-- The value of an expression depends on the cells that it reads and on no others. -/
theorem meaning_congr (e : Expr) (same : ∀ p ∈ e.positions, value p = value' p) :
    e.meaning registry value = e.meaning registry value' := by
  -- The cases follow the expression.
  match e with
  | number _ | text _ | truth _ => simp only [meaning]
  | cell p => simpa only [meaning] using same p (by simp [positions])
  | area a =>
    have values : a.positions.mapM value = a.positions.mapM value' := mapM_congr same
    simp only [meaning, values]
  | unary op operand => simp only [meaning, meaning_congr operand same]
  | binary op left right =>
    have first := meaning_congr left fun p member => same p (List.mem_append_left _ member)
    have second := meaning_congr right fun p member => same p (List.mem_append_right _ member)
    simp only [meaning, first, second]
  | call name arguments => simp only [meaning, meanings_congr arguments same]

/-- The values of some expressions depend on the cells that they read and on no others. -/
theorem meanings_congr (es : List Expr) (same : ∀ p ∈ positionsOfAll es, value p = value' p) :
    meanings registry value es = meanings registry value' es := by
  -- The cases follow the list.
  match es with
  | [] => simp only [meanings]
  | e :: rest =>
    have first := meaning_congr e fun p member => same p (List.mem_append_left _ member)
    have others := meanings_congr rest fun p member => same p (List.mem_append_right _ member)
    simp only [meanings, first, others]
end

end Expr

/-- What a formula can see of a cell. -/
inductive Seen where
  /-- A formula, which is computed whenever the cell is read. -/
  | formula (text : String)
  /-- A value. -/
  | value (v : Value)

/-- What formulas see at a position of a sheet. -/
def Sheet.seen (sheet : Sheet) (p : Position) : Seen :=
  -- The value of a cell with a formula is not seen.
  match sheet p with
  | none => .value .blank
  | some cell =>
    match cell.activeFormula? with
    | some formula => .formula formula
    | none => .value cell.value

namespace Sheet

variable {sheet : Sheet} {p : Position} {formula : String}

/-- A formula is seen where there is one. -/
theorem seen_eq_formula : seen sheet p = .formula formula ↔ formulaAt sheet p = some formula := by
  unfold seen formulaAt
  cases sheet p with
  | none => simp
  | some cell => cases has : cell.activeFormula? <;> simp [has]

/-- Without a formula the value that a cell holds is seen. -/
theorem seen_of_none (without : formulaAt sheet p = none) :
    seen sheet p = .value (((sheet p).map Cell.value).getD .blank) := by
  unfold seen
  unfold formulaAt at without
  cases here : sheet p with
  | none => rfl
  | some cell =>
    rw [here, Option.bind_some] at without
    simp [without]

/-- A value is seen only where there is no formula. -/
theorem formulaAt_of_seen_value {v : Value} (sees : seen sheet p = .value v) :
    formulaAt sheet p = none := by
  -- A formula would be seen instead.
  cases has : formulaAt sheet p with
  | none => rfl
  | some formula => simp [seen_eq_formula.mpr has] at sees

/-- What is seen tells the formula. -/
theorem formulaAt_congr {other : Sheet} (same : seen sheet p = seen other p) :
    formulaAt sheet p = formulaAt other p := by
  -- Either the same formula is seen on both sheets, or a value on both.
  cases sees : seen sheet p with
  | formula text =>
    rw [seen_eq_formula.mp sees, seen_eq_formula.mp (same.symm.trans sees)]
  | value v => rw [formulaAt_of_seen_value sees, formulaAt_of_seen_value (same.symm.trans sees)]

end Sheet

namespace Evaluator

variable {evaluator : Evaluator} {sheet other : Sheet}

/-- The value of what is seen of a cell; `value` computes formulas. -/
def valueSeen (sheet : Sheet) (value : CellId → String → Except Failure Value) (p : Position) :
    Except Failure Value :=
  -- A formula is computed for the cell where it stands.
  match Sheet.seen sheet p with
  | .formula formula => value p.id formula
  | .value v => .ok v

/-- The value of an expression as a whole, which is no list. -/
def valueAlone (evaluator : Evaluator) (value : Position → Except Failure Value) (e : Expr) :
    Except Failure Value := do
  -- Lists belong to functions.
  let v ← e.meaning evaluator.registry value
  if v.isList then throw (.formula .listAlone)
  return v

/-- The value of a cell's formula with room for this many cells inside one another. -/
def meaningWithin (evaluator : Evaluator) (sheet : Sheet) :
    Nat → CellId → String → Except Failure Value
  -- Without room nothing is looked at.
  | 0, id, _ => .error (.formula (.tooDeep evaluator.maxDepth id))
  | room + 1, _, formula => do
    let e ← Expr.ofFormula formula
    evaluator.valueAlone (valueSeen sheet (meaningWithin evaluator sheet room)) e

/-- The value of a formula depends on what is seen at the cells it reads, directly or not. -/
theorem meaningWithin_congr {room : Nat} {id : CellId} {formula : String}
    (has : Sheet.formulas sheet id = some formula)
    (same : ∀ q : Position, q.Named → TransGen (Sheet.formulas sheet).Reads id q.id →
      Sheet.seen sheet q = Sheet.seen other q) :
    evaluator.meaningWithin sheet room id formula =
      evaluator.meaningWithin other room id formula := by
  -- The induction is on the room; the cells that are read have less of it.
  induction room generalizing id formula with
  | zero => rfl
  | succ room ih =>
    rw [meaningWithin, meaningWithin]
    cases read : Expr.ofFormula formula with
    | error e => rfl
    | ok e =>
      have agree : ∀ p ∈ e.positions,
          valueSeen sheet (meaningWithin evaluator sheet room) p =
            valueSeen other (meaningWithin evaluator other room) p := by
        intro p member
        have named : p.Named := (Expr.ofFormula_delivers formula).of_ok read p member
        have reads : (Sheet.formulas sheet).Reads id p.id :=
          (Formulas.reads_iff has read).mpr ⟨p, member, rfl⟩
        rw [valueSeen, valueSeen, ← same p named (.single reads)]
        -- Behind a cell that is read lies nothing that does not lie behind the formula.
        cases sees : Sheet.seen sheet p with
        | value v => rfl
        | formula text =>
          refine ih ?_ fun q named' reached => same q named' (.head reads reached)
          rw [Sheet.formulas_id sheet named, Sheet.seen_eq_formula.mp sees]
      show valueAlone evaluator _ e = valueAlone evaluator _ e
      rw [valueAlone, valueAlone, Expr.meaning_congr e agree]

end Evaluator
end Spreadsheet
