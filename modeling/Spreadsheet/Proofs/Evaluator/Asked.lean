import Spreadsheet.Proofs.Evaluator.Records

/-!
Which cells an expression asks for while it is evaluated, and in what workspace each of them is read:
operands and arguments from left to right, each one in the workspace that the ones before it leave.
-/

namespace Spreadsheet

open Evaluation Stateful

/-- Reading some positions one after the other asks for a position in a workspace. -/
inductive AsksEach (read : Position → Evaluation Value) :
    List Position → Workspace → Position → Workspace → Prop
  | first {p : Position} {rest : List Position} {w : Workspace} : AsksEach read (p :: rest) w p w
  /-- A position is read once the one before it has given a value. -/
  | later {p q : Position} {rest : List Position} {v : Value} {w between inner : Workspace}
    (done : read p w = (.ok v, between)) (asks : AsksEach read rest between q inner) :
    AsksEach read (p :: rest) w q inner

namespace Expr

mutual
/-- Evaluating an expression in one workspace asks for a position in another one. -/
inductive Asks (registry : Registry) (read : Position → Evaluation Value) :
    Expr → Workspace → Position → Workspace → Prop
  | cell {p : Position} {w : Workspace} : Asks registry read (.cell p) w p w
  | area {a : Area} {p : Position} {w inner : Workspace} (asks : AsksEach read a.positions w p inner) :
    Asks registry read (.area a) w p inner
  | unary {op : UnaryOp} {operand : Expr} {p : Position} {w inner : Workspace}
    (asks : Asks registry read operand w p inner) : Asks registry read (.unary op operand) w p inner
  | left {op : BinaryOp} {left right : Expr} {p : Position} {w inner : Workspace}
    (asks : Asks registry read left w p inner) : Asks registry read (.binary op left right) w p inner
  | right {op : BinaryOp} {left right : Expr} {p : Position} {v : Value} {w between inner : Workspace}
    (done : left.evaluate registry read w = (.ok v, between))
    (asks : Asks registry read right between p inner) :
    Asks registry read (.binary op left right) w p inner
  /-- Arguments are evaluated if there is a function to call. -/
  | call {name : String} {f : SheetFunction} {arguments : List Expr} {p : Position} {w inner : Workspace}
    (found : registry.find? name = some f) (asks : AsksAny registry read arguments w p inner) :
    Asks registry read (.call name arguments) w p inner

/-- Evaluating some expressions from left to right asks for a position. -/
inductive AsksAny (registry : Registry) (read : Position → Evaluation Value) :
    List Expr → Workspace → Position → Workspace → Prop
  | first {e : Expr} {rest : List Expr} {p : Position} {w inner : Workspace}
    (asks : Asks registry read e w p inner) : AsksAny registry read (e :: rest) w p inner
  | later {e : Expr} {rest : List Expr} {p : Position} {v : Value} {w between inner : Workspace}
    (done : e.evaluate registry read w = (.ok v, between))
    (asks : AsksAny registry read rest between p inner) : AsksAny registry read (e :: rest) w p inner
end

end Expr

variable {registry : Registry} {read read' : Position → Evaluation Value} {Inv : Workspace → Prop}
  {w inner : Workspace} {p : Position}

/-- Reading positions depends on what is read where they are asked for. -/
theorem mapM_congr_of_asks {ps : List Position}
    (same : ∀ p inner, AsksEach read ps w p inner → read p inner = read' p inner) :
    ps.mapM read w = ps.mapM read' w := by
  -- The induction is along the positions, with the workspace between them.
  induction ps generalizing w with
  | nil => rfl
  | cons p rest ih =>
    rw [List.mapM_cons, List.mapM_cons]
    -- The first one is asked for in the workspace at the outset.
    refine bind_congr (same p w .first) fun v between done => ?_
    have others := ih fun q inner asks => same q inner (.later done asks)
    exact bind_congr others fun _ _ _ => rfl

/-- Only positions to read are asked for. -/
theorem AsksEach.mem {ps : List Position} (asks : AsksEach read ps w p inner) : p ∈ ps := by
  -- A derivation leads along the list to its position.
  induction asks with
  | first => exact List.mem_cons_self
  | later _ _ ih => exact List.mem_cons_of_mem _ ih

/-- If positions are read with success, each of them is asked for. -/
theorem AsksEach.of_mem {ps : List Position} {vs : List Value} {after : Workspace}
    (done : ps.mapM read w = (.ok vs, after)) (member : p ∈ ps) :
    ∃ inner, AsksEach read ps w p inner := by
  -- The induction is along the positions up to the one that is asked for.
  induction ps generalizing w after vs with
  | nil => cases member
  | cons q rest ih =>
    rcases List.mem_cons.mp member with rfl | behind
    · exact ⟨w, .first⟩
    · rw [List.mapM_cons] at done
      obtain ⟨v, between, first, done⟩ := bind_eq_ok.mp done
      obtain ⟨others, u, each, -⟩ := bind_eq_ok.mp done
      obtain ⟨inner, asks⟩ := ih each behind
      exact ⟨inner, .later first asks⟩

/-- A position that is asked for is one of those to read, and what reading keeps holds there. -/
theorem AsksEach.keeps {ps : List Position} (each : ∀ p ∈ ps, Keeps Inv (read p)) (inv : Inv w)
    (asks : AsksEach read ps w p inner) : p ∈ ps ∧ Inv inner := by
  -- What the positions before leave is where the next one is asked for.
  induction asks with
  | first => exact ⟨List.mem_cons_self, inv⟩
  | @later q _ rest v w between inner done _ ih =>
    -- The position before was read with success, and reading it keeps the invariant.
    have kept : Inv between := by simpa [done] using each q List.mem_cons_self w inv
    obtain ⟨member, holds⟩ := ih (fun x member => each x (List.mem_cons_of_mem _ member)) kept
    exact ⟨List.mem_cons_of_mem _ member, holds⟩

namespace Expr

mutual
/-- Evaluating an expression depends on what is read where its cells are asked for. -/
theorem evaluate_congr_of_asks (e : Expr) (w : Workspace)
    (same : ∀ p inner, Asks registry read e w p inner → read p inner = read' p inner) :
    e.evaluate registry read w = e.evaluate registry read' w := by
  -- The cases follow the expression.
  match e with
  | number _ | text _ | truth _ => simp only [evaluate]
  -- A reference asks for its own cell, here and now.
  | cell p => simpa only [evaluate] using same p w .cell
  | area a =>
    simp only [evaluate]
    have values := mapM_congr_of_asks fun p inner asks => same p inner (.area asks)
    exact bind_congr values fun _ _ _ => rfl
  | unary op operand =>
    simp only [evaluate]
    have value := evaluate_congr_of_asks operand w fun p inner asks => same p inner (.unary asks)
    exact bind_congr value fun _ _ _ => rfl
  | binary op left right =>
    simp only [evaluate]
    -- The left operand comes first, and the right one in the workspace that it leaves.
    have first := evaluate_congr_of_asks left w fun p inner asks => same p inner (.left asks)
    refine bind_congr first fun v between done => ?_
    have second := evaluate_congr_of_asks right between fun p inner asks =>
      same p inner (.right done asks)
    exact bind_congr second fun _ _ _ => rfl
  | call name arguments =>
    simp only [evaluate]
    -- Without a function to call the arguments are not evaluated.
    cases found : registry.find? name with
    | none => rfl
    | some f =>
      have values := evaluateAll_congr_of_asks arguments w fun p inner asks =>
        same p inner (.call found asks)
      exact bind_congr values fun _ _ _ => rfl

/-- Evaluating some expressions depends on what is read where their cells are asked for. -/
theorem evaluateAll_congr_of_asks (es : List Expr) (w : Workspace)
    (same : ∀ p inner, AsksAny registry read es w p inner → read p inner = read' p inner) :
    evaluateAll registry read es w = evaluateAll registry read' es w := by
  -- The cases follow the list.
  match es with
  | [] => simp only [evaluateAll]
  | e :: rest =>
    simp only [evaluateAll]
    have first := evaluate_congr_of_asks e w fun p inner asks => same p inner (.first asks)
    refine bind_congr first fun v between done => ?_
    have others := evaluateAll_congr_of_asks rest between fun p inner asks =>
      same p inner (.later done asks)
    exact bind_congr others fun _ _ _ => rfl
end

mutual
/-- A position that is asked for is one of the expression, and what reading keeps holds there. -/
theorem asks_keeps (plain : registry.Plain) (e : Expr) {w inner : Workspace}
    (each : ∀ p ∈ e.positions, Keeps Inv (read p)) (inv : Inv w)
    (asks : Asks registry read e w p inner) : p ∈ e.positions ∧ Inv inner := by
  -- The cases follow the expression.
  match e with
  | number _ | text _ | truth _ => cases asks
  | cell q =>
    cases asks
    exact ⟨by simp [positions], inv⟩
  | area a =>
    cases asks with
    | area asks => exact asks.keeps each inv
  | unary op operand =>
    cases asks with
    | unary asks => exact asks_keeps plain operand each inv asks
  | binary op left right =>
    -- The positions of the left operand are listed before those of the right one.
    have early := fun p member => each p (List.mem_append_left _ member)
    cases asks with
    | left asks =>
      obtain ⟨member, holds⟩ := asks_keeps plain left early inv asks
      exact ⟨List.mem_append_left _ member, holds⟩
    | @right _ _ _ _ v _ between _ done asks =>
      -- The left operand was evaluated before, which keeps the invariant as well.
      have kept : Inv between := by simpa [done] using evaluate_keeps plain left early w inv
      obtain ⟨member, holds⟩ := asks_keeps plain right
        (fun p member => each p (List.mem_append_right _ member)) kept asks
      exact ⟨List.mem_append_right _ member, holds⟩
  | call name arguments =>
    cases asks with
    | call found asks => exact asksAny_keeps plain arguments each inv asks

/-- A position that is asked for is one of the expressions, and what reading keeps holds there. -/
theorem asksAny_keeps (plain : registry.Plain) (es : List Expr) {w inner : Workspace}
    (each : ∀ p ∈ positionsOfAll es, Keeps Inv (read p)) (inv : Inv w)
    (asks : AsksAny registry read es w p inner) : p ∈ positionsOfAll es ∧ Inv inner := by
  -- The cases follow the list.
  match es with
  | [] => cases asks
  | e :: rest =>
    have early := fun p member => each p (List.mem_append_left _ member)
    cases asks with
    | first asks =>
      obtain ⟨member, holds⟩ := asks_keeps plain e early inv asks
      exact ⟨List.mem_append_left _ member, holds⟩
    | @later _ _ _ v _ between _ done asks =>
      -- What the first expression leaves is where the others begin.
      have kept : Inv between := by simpa [done] using evaluate_keeps plain e early w inv
      obtain ⟨member, holds⟩ := asksAny_keeps plain rest
        (fun p member => each p (List.mem_append_right _ member)) kept asks
      exact ⟨List.mem_append_right _ member, holds⟩
end

end Expr

namespace Evaluator

variable {evaluator : Evaluator} {sheet : Sheet} {id : CellId} {formula : String}

/-- Reading a cell depends on how its own formula is evaluated there. -/
theorem readCell_congr {nested nested' : CellId → String → Evaluation Value}
    (same : ∀ own, Sheet.formulaAt sheet p = some own → nested p.id own w = nested' p.id own w) :
    readCell sheet nested p w = readCell sheet nested' p w := by
  rw [readCell_eq_seen, readCell_eq_seen]
  -- What a cell shows tells whether there is a formula to evaluate.
  cases sees : Sheet.seen sheet p with
  | value v => rfl
  | formula own => exact same own (Sheet.seen_eq_formula.mp sees)

/-- Evaluating a formula depends on what is read where its cells are asked for, once it is recorded. -/
theorem evaluateFormula_congr_of_asks
    (same : ∀ e recorded, Expr.ofFormula formula = .ok e →
      recorded = { w with graph := w.graph.setDependencies id e.references (some formula) } →
      recorded.graph.cycleFrom? id = none → ∀ p inner,
        e.Asks evaluator.registry read recorded p inner → read p inner = read' p inner) :
    evaluator.evaluateFormula read id formula w = evaluator.evaluateFormula read' id formula w := by
  -- Only a formula that is read asks for cells.
  cases parsed : Expr.ofFormula formula with
  | error failure =>
    -- Nothing is asked for by a formula that is no expression.
    cases failure with
    | formula e => rw [evaluateFormula_of_unread parsed, evaluateFormula_of_unread parsed]
    | fault f => rw [evaluateFormula_of_fault parsed, evaluateFormula_of_fault parsed]
  | ok e =>
    rw [evaluateFormula_of_ok parsed _ rfl, evaluateFormula_of_ok parsed _ rfl]
    dsimp only
    -- Where a cycle is found nothing is asked for.
    split
    · rfl
    · rename_i acyclic
      have values := Expr.evaluate_congr_of_asks e _ (same e _ parsed rfl acyclic)
      exact bind_congr values fun _ _ _ => rfl

end Evaluator
end Spreadsheet
