import Spreadsheet.Expr.Parser
import Spreadsheet.Function.Registry
import Spreadsheet.Graph
import Spreadsheet.Operator.Apply
import Spreadsheet.Sheet

/-!
Evaluation of formulas against a sheet. References are followed into other formula cells, and on the
way every formula's dependencies are recorded and searched for cycles.
-/

namespace Spreadsheet

/-- What an evaluation works on: the recorded dependencies, and the cells being evaluated. -/
structure Workspace where
  graph : DependencyGraph
  /-- The cells being evaluated, the innermost one first. -/
  pending : List CellId
  deriving Inhabited

/-- A computation on a workspace, which keeps its changes even if the computation fails. -/
abbrev Evaluation (α : Type) := ExceptT Failure (StateM Workspace) α

/-- What an evaluator is set up with. -/
structure Evaluator where
  /-- How many cells may be evaluated inside one another. -/
  maxDepth : Int
  /-- The functions that formulas can call. -/
  registry : Registry

namespace Evaluation

/-- Fails for a reason that belongs to formulas. -/
def refuse {α : Type} (e : FormulaError) : Evaluation α := throw (.formula e)

/-- Changes the dependency graph. -/
def changeGraph (change : DependencyGraph → DependencyGraph) : Evaluation Unit :=
  -- The pending cells stay.
  modify fun w => { w with graph := change w.graph }

/-- Runs a computation with one more cell pending, and takes the cell away however it ends. -/
def inside {α : Type} (id : CellId) (work : Evaluation α) : Evaluation α := fun w =>
  -- The graph that the computation leaves is kept.
  let (outcome, after) := work { w with pending := id :: w.pending }
  (outcome, { after with pending := after.pending.tail })

end Evaluation

open Evaluation

namespace Workspace

/-- Nothing recorded, nothing pending. -/
def empty : Workspace := ⟨.empty, []⟩

/-- The pending cells from a cell on to the innermost one, and that cell again. -/
def pathFrom (w : Workspace) (id : CellId) : List CellId := Search.closedAt w.pending id

end Workspace

namespace Expr

mutual
/-- The value of an expression; `read` gives the value of the cell at a position. -/
def evaluate (registry : Registry) (read : Position → Evaluation Value) : Expr → Evaluation Value
  -- Operands and arguments are evaluated from left to right, all of them before they are combined;
  -- what was computed in different places stays apart.
  | number n => return .number n
  | text s => return .text s
  | truth b => return .truth b
  | cell p => read p
  | area a => do return .list (Value.apart (← a.positions.mapM read))
  | unary op operand => do
    let v ← evaluate registry read operand
    ofExcept (op.apply v)
  | binary op left right => do
    let v ← evaluate registry read left
    let w ← evaluate registry read right
    ofExcept (op.apply v w)
  | call name arguments => do
    match registry.find? name with
    | none => refuse (.unknownFunction name)
    | some f =>
      let vs := Value.apart (← evaluateAll registry read arguments)
      match f.problem? vs.length with
      | some problem => refuse (.badArguments name problem)
      | none =>
        if f.dropsDependencies then changeGraph fun _ => .empty
        ofExcept (f.call name vs)

/-- The values of some expressions, from left to right. -/
def evaluateAll (registry : Registry) (read : Position → Evaluation Value) :
    List Expr → Evaluation (List Value)
  -- The first failure ends it.
  | [] => return []
  | e :: rest => do
    let v ← evaluate registry read e
    let vs ← evaluateAll registry read rest
    return v :: vs
end

end Expr

namespace Evaluator

/-- The usual limit of depth. -/
def usualDepth : Int := 100

/-- An evaluator with the built-in functions alone. -/
def builtin (maxDepth : Int) : Evaluator := ⟨maxDepth, .builtin⟩

/--
The expression of a formula, its references recorded as what the cell reads. A formula that is no
expression reads nothing, and its text is recorded all the same.
-/
def track (id : CellId) (formula : String) : Evaluation Expr :=
  -- A fault of a literal leaves the record as it was.
  match Expr.ofFormula formula with
  | .ok e => do
    changeGraph (·.setDependencies id e.references (some formula))
    return e
  | .error (.formula error) => do
    changeGraph (·.setDependencies id [] (some formula))
    refuse error
  | .error (.fault fault) => throw (.fault fault)

/-- The value of a cell: of its formula if it has one, given by `evaluate`. -/
def readCell (sheet : Sheet) (evaluate : CellId → String → Evaluation Value) (p : Position) :
    Evaluation Value :=
  -- A formula is always evaluated anew, whatever value the cell holds.
  match sheet p with
  | none => return .blank
  | some cell =>
    match cell.activeFormula? with
    | some formula => evaluate p.id formula
    | none => return cell.value

/-- The value of a formula whose cell is pending already; `read` gives the value of other cells. -/
def evaluateFormula (evaluator : Evaluator) (read : Position → Evaluation Value) (id : CellId)
    (formula : String) : Evaluation Value := do
  -- Cycles are searched behind the cell in the whole graph, old records included.
  let e ← track id formula
  match (← get).graph.cycleFrom? id with
  | some cycle => refuse (.circular cycle)
  | none =>
    let v ← e.evaluate evaluator.registry read
    if v.isList then refuse .listAlone
    return v

/-- The value of the formula of a cell, with room for this many cells inside one another. -/
def evaluateWithin (evaluator : Evaluator) (sheet : Sheet) :
    Nat → CellId → String → Evaluation Value
  -- A cell that is pending already is refused before the depth is looked at.
  | room, id, formula => do
    let w ← get
    if id ∈ w.pending then refuse (.circular (w.pathFrom id))
    match room with
    | 0 => refuse (.tooDeep evaluator.maxDepth id)
    | room + 1 =>
      inside id <| evaluator.evaluateFormula (readCell sheet (evaluateWithin evaluator sheet room))
        id formula

/-- The value of a formula in a cell of a sheet. -/
def evaluate (evaluator : Evaluator) (sheet : Sheet) (id : String) (formula : String) :
    Evaluation Value := do
  -- The cells that are pending take up some of the depth.
  let w ← get
  evaluator.evaluateWithin sheet (evaluator.maxDepth - w.pending.length).toNat (Text.upper id) formula

end Evaluator
end Spreadsheet
