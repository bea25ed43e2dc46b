import Spreadsheet.Proofs.Evaluator.Circular
import Spreadsheet.Proofs.Evaluator.Nested

/-!
What the outcome of an evaluation tells of the cells that were asked for: with a value each cell of the
expression has given one, and a failure is that of a cell or lies in the values. So there are only a few
ways in which a request ends.
-/

namespace Spreadsheet

open Evaluation Stateful

variable {registry : Registry} {read : Position → Evaluation Value} {Inv : Workspace → Prop}
  {w after : Workspace} {p : Position} {failure : Failure}

/-- What is computed apart from the workspace leaves it alone. -/
theorem ofExcept_run {α : Type} {x outcome : Except Failure α}
    (run : (ofExcept x : Evaluation α) w = (outcome, after)) : x = outcome ∧ w = after := by
  -- Neither a value nor a failure goes through the workspace.
  cases x <;> cases run <;> exact ⟨rfl, rfl⟩

/-- If positions are read with success, what answering one of them settles and reading keeps holds. -/
theorem holds_of_answered_each {ps : List Position} {vs : List Value}
    (kept : ∀ q ∈ ps, Keeps Inv (read q)) (done : ps.mapM read w = (.ok vs, after))
    (member : p ∈ ps)
    (settles : ∀ u v u', AsksEach read ps w p u → read p u = (.ok v, u') → Inv u') : Inv after := by
  -- The induction is along the positions up to the one that is answered.
  induction ps generalizing w vs with
  | nil => cases member
  | cons q rest ih =>
    rw [List.mapM_cons] at done
    obtain ⟨v, between, first, done⟩ := bind_eq_ok.mp done
    obtain ⟨vs, u, others, done⟩ := bind_eq_ok.mp done
    cases done
    -- The positions behind keep what has been settled.
    have later : ∀ x ∈ rest, Keeps Inv (read x) := fun x inside =>
      kept x (List.mem_cons_of_mem q inside)
    -- Either the first position is the one, and the others keep what it settles, or it is behind.
    rcases List.mem_cons.mp member with rfl | inside
    · have settled := settles w v between .first first
      simpa only [others] using Keeps.mapM rest later between settled
    · exact ih later others inside fun u v u' asks => settles u v u' (.later first asks)

/-- A failure is that of a position that was asked for, in the workspace that reading it leaves. -/
def FailsBy (read : Position → Evaluation Value) (failure : Failure) (after : Workspace)
    (asks : Position → Workspace → Prop) : Prop :=
  -- Nothing is done after the failure.
  ∃ p u, asks p u ∧ read p u = (.error failure, after)

/-- A failure stays that of a position if more is asked for. -/
theorem FailsBy.mono {asks more : Position → Workspace → Prop}
    (fails : FailsBy read failure after asks) (wider : ∀ {p u}, asks p u → more p u) :
    FailsBy read failure after more := by
  obtain ⟨p, u, asks, cause⟩ := fails
  exact ⟨p, u, wider asks, cause⟩

/-- Reading positions fails as reading one of them does. -/
theorem failsBy_each {ps : List Position} (failed : ps.mapM read w = (.error failure, after)) :
    FailsBy read failure after (AsksEach read ps w) := by
  -- The induction is along the positions up to the one that fails.
  induction ps generalizing w with
  | nil => cases failed
  | cons q rest ih =>
    rw [List.mapM_cons] at failed
    -- The first position fails, or it is read and the failure comes later.
    rcases bind_eq_error.mp failed with here | ⟨v, between, first, failed⟩
    · exact ⟨q, w, .first, here⟩
    · rcases bind_eq_error.mp failed with there | ⟨vs, u, -, made⟩
      · exact (ih there).mono (.later first)
      · -- The list of the results is put together without a failure.
        cases made

namespace Expr

mutual
/-- If an expression has a value, what answering one of its cells settles and reading keeps holds. -/
theorem holds_of_answered (plain : registry.Plain) (e : Expr) {w after : Workspace}
    {v : Value} (kept : ∀ q ∈ e.positions, Keeps Inv (read q))
    (done : e.evaluate registry read w = (.ok v, after)) (member : p ∈ e.positions)
    (settles : ∀ u v u', Asks registry read e w p u → read p u = (.ok v, u') → Inv u') :
    Inv after := by
  -- The cases follow the expression.
  match e with
  | number _ | text _ | truth _ => simp [positions] at member
  | cell q =>
    simp only [evaluate] at done
    -- A single reference is the one that is asked for.
    obtain rfl : p = q := by simpa [positions] using member
    exact settles w v after .cell done
  | area a =>
    simp only [evaluate] at done
    obtain ⟨vs, u, values, done⟩ := bind_eq_ok.mp done
    cases done
    exact holds_of_answered_each kept values member fun u v u' asks => settles u v u' (.area asks)
  | unary op operand =>
    simp only [evaluate] at done
    obtain ⟨v, u, inside, computed⟩ := bind_eq_ok.mp done
    obtain ⟨-, rfl⟩ := ofExcept_run computed
    exact holds_of_answered plain operand kept inside member fun u v u' asks =>
      settles u v u' (.unary asks)
  | binary op left right =>
    simp only [evaluate] at done
    obtain ⟨v, between, first, done⟩ := bind_eq_ok.mp done
    obtain ⟨v', u, second, computed⟩ := bind_eq_ok.mp done
    obtain ⟨-, rfl⟩ := ofExcept_run computed
    have early := fun q inside => kept q (List.mem_append_left _ inside)
    have late := fun q inside => kept q (List.mem_append_right _ inside)
    -- What the left operand settles is kept by the right one.
    rcases List.mem_append.mp member with here | there
    · have settled := holds_of_answered plain left early first here fun u v u' asks =>
        settles u v u' (.left asks)
      simpa only [second] using evaluate_keeps plain right late between settled
    · exact holds_of_answered plain right late second there fun u v u' asks =>
        settles u v u' (.right first asks)
  | call name arguments =>
    simp only [evaluate] at done
    -- A function was found and called, since there is a value.
    cases found : registry.find? name with
    | none =>
      rw [found] at done
      cases done
    | some f =>
      rw [found] at done
      obtain ⟨vs, u, values, computed⟩ := bind_eq_ok.mp done
      have settled := holds_of_answered_all plain arguments kept values member fun u v u' asks =>
        settles u v u' (.call found asks)
      -- A plain function does not drop what is recorded.
      cases fits : f.problem? (Value.apart vs).length with
      | some problem =>
        rw [fits] at computed
        cases computed
      | none =>
        simp only [fits, plain.keeps found] at computed
        exact (ofExcept_run computed).2 ▸ settled

/-- If expressions have values, what answering one of their cells settles and reading keeps holds. -/
theorem holds_of_answered_all (plain : registry.Plain) (es : List Expr) {w after : Workspace}
    {vs : List Value} (kept : ∀ q ∈ positionsOfAll es, Keeps Inv (read q))
    (done : evaluateAll registry read es w = (.ok vs, after)) (member : p ∈ positionsOfAll es)
    (settles : ∀ u v u', AsksAny registry read es w p u → read p u = (.ok v, u') → Inv u') :
    Inv after := by
  -- The cases follow the list.
  match es with
  | [] => simp [positionsOfAll] at member
  | e :: rest =>
    simp only [evaluateAll] at done
    obtain ⟨v, between, first, done⟩ := bind_eq_ok.mp done
    obtain ⟨vs, u, others, done⟩ := bind_eq_ok.mp done
    cases done
    have early := fun q inside => kept q (List.mem_append_left _ inside)
    have late := fun q inside => kept q (List.mem_append_right _ inside)
    -- What the first expression settles is kept by the others.
    rcases List.mem_append.mp member with here | there
    · have settled := holds_of_answered plain e early first here fun u v u' asks =>
        settles u v u' (.first asks)
      have keeps := evaluateAll_composes (.keeps Inv) plain rest late
      simpa only [others] using keeps between settled
    · exact holds_of_answered_all plain rest late others there fun u v u' asks =>
        settles u v u' (.later first asks)
end

mutual
/-- An expression fails as reading one of its cells does, or for a reason that lies in the values. -/
theorem failsBy (plain : registry.Plain) (e : Expr) {w after : Workspace}
    (failed : e.evaluate registry read w = (.error failure, after)) :
    FailsBy read failure after (Asks registry read e w) ∨
      failure.Among meaningKinds fun _ => True := by
  -- The cases follow the expression.
  match e with
  | number _ | text _ | truth _ =>
    simp only [evaluate] at failed
    cases failed
  | cell p =>
    simp only [evaluate] at failed
    exact .inl ⟨p, w, .cell, failed⟩
  | area a =>
    simp only [evaluate] at failed
    rcases bind_eq_error.mp failed with inside | ⟨vs, u, -, made⟩
    · exact .inl ((failsBy_each inside).mono .area)
    · cases made
  | unary op operand =>
    simp only [evaluate] at failed
    -- An operand fails, or the operator does on its value.
    rcases bind_eq_error.mp failed with inside | ⟨v, u, -, computed⟩
    · exact (failsBy plain operand inside).imp_left (·.mono .unary)
    · exact .inr ((op.apply_meant v).of_error (ofExcept_run computed).1)
  | binary op left right =>
    simp only [evaluate] at failed
    -- The operands fail in their order, and the operator only once both have values.
    rcases bind_eq_error.mp failed with here | ⟨v, between, first, failed⟩
    · exact (failsBy plain left here).imp_left (·.mono .left)
    · rcases bind_eq_error.mp failed with there | ⟨v', u, -, computed⟩
      · exact (failsBy plain right there).imp_left (·.mono (.right first))
      · exact .inr ((op.apply_meant v v').of_error (ofExcept_run computed).1)
  | call name arguments =>
    simp only [evaluate] at failed
    -- A name without a function is a reason of its own.
    cases found : registry.find? name with
    | none =>
      rw [found] at failed
      cases failed
      exact .inr (List.mem_of_elem_eq_true rfl)
    | some f =>
      rw [found] at failed
      rcases bind_eq_error.mp failed with inside | ⟨vs, u, -, computed⟩
      · exact (failsBy_all plain arguments inside).imp_left (·.mono (.call found))
      · refine .inr ?_
        -- Arguments of a wrong number are refused before the call.
        cases fits : f.problem? (Value.apart vs).length with
        | some problem =>
          rw [fits] at computed
          cases computed
          exact List.mem_of_elem_eq_true rfl
        | none =>
          simp only [fits, plain.keeps found] at computed
          have called := SheetFunction.call_computes (plain.computes found fits) name
          exact called.meant.of_error (ofExcept_run computed).1

/-- Expressions fail as reading one of their cells does, or for a reason that lies in the values. -/
theorem failsBy_all (plain : registry.Plain) (es : List Expr) {w after : Workspace}
    (failed : evaluateAll registry read es w = (.error failure, after)) :
    FailsBy read failure after (AsksAny registry read es w) ∨
      failure.Among meaningKinds fun _ => True := by
  -- The cases follow the list.
  match es with
  | [] =>
    simp only [evaluateAll] at failed
    cases failed
  | e :: rest =>
    simp only [evaluateAll] at failed
    rcases bind_eq_error.mp failed with here | ⟨v, between, first, failed⟩
    · exact (failsBy plain e here).imp_left (·.mono .first)
    · rcases bind_eq_error.mp failed with there | ⟨vs, u, -, made⟩
      · exact (failsBy_all plain rest there).imp_left (·.mono (.later first))
      · cases made
end

end Expr

/-- The search finds a cycle of records when the formula of a request that was taken up is recorded. -/
structure Request.Closes (maxDepth : Int) (request : Request) (e : Expr) (path : List CellId) :
    Prop where
  accepted : request.Accepted maxDepth
  parsed : Expr.ofFormula request.formula = .ok e
  found : (request.entered e).graph.cycleFrom? request.id = some path

namespace Evaluator

variable {evaluator : Evaluator} {sheet : Sheet} {outer inner request : Request} {e : Expr}
  {id formula : String} {v : Value}

/-- The value of an expression as a whole is the value of the expression. -/
theorem evaluate_of_evaluateAlone (done : evaluator.evaluateAlone read e w = (.ok v, after)) :
    e.evaluate evaluator.registry read w = (.ok v, after) := by
  obtain ⟨v', u, value, done⟩ := bind_eq_ok.mp done
  -- The value is not a list, or there would be a failure in its place.
  dsimp only at done
  split at done
  · cases done
  · cases done
    exact value

/-- An expression as a whole fails as reading one of its cells does, or for a reason of its own. -/
theorem failsBy_alone (plain : evaluator.registry.Plain)
    (failed : evaluator.evaluateAlone read e w = (.error failure, after)) :
    FailsBy read failure after (e.Asks evaluator.registry read w) ∨
      failure.Among meaningKinds fun _ => True := by
  rcases bind_eq_error.mp failed with inside | ⟨v, u, -, refused⟩
  · exact e.failsBy plain inside
  · -- A list is no value of a formula.
    dsimp only at refused
    split at refused
    · cases refused
      exact .inr (List.mem_of_elem_eq_true rfl)
    · cases refused

/-- What a request gives, and the workspace that it leaves. -/
def answer (evaluator : Evaluator) (sheet : Sheet) (request : Request) :
    Except Failure Value × Workspace :=
  evaluator.evaluateOnce sheet (evaluator.evaluate sheet) request.id request.formula
    request.workspace

/-- An evaluation answers the request for its cell. -/
theorem evaluate_eq_answer (plain : evaluator.registry.Plain) (sheet : Sheet) (id formula : String)
    (w : Workspace) :
    evaluator.evaluate sheet id formula w = evaluator.answer sheet ⟨Text.upper id, formula, w⟩ :=
  evaluateWithin_eq_once plain

/-- A cell that is asked for and has a formula is read by answering the request for it. -/
theorem readCell_eq_answer (plain : evaluator.registry.Plain) {p : Position} {own : String}
    (on : p.OnSheet) (has : Sheet.formulaAt sheet p = some own) :
    readCell sheet (evaluator.evaluate sheet) p w = evaluator.answer sheet ⟨p.id, own, w⟩ := by
  -- What the cell shows is its formula.
  rw [readCell_eq_seen, Sheet.seen_eq_formula.mpr has]
  exact (evaluate_eq_answer plain sheet p.id own w).trans (by rw [Position.upper_id on])

/-- A request that is started inside another one is answered by evaluating its formula. -/
theorem Inner.evaluate_eq_answer (plain : evaluator.registry.Plain)
    (starts : Inner evaluator sheet outer inner) :
    evaluator.evaluate sheet inner.id inner.formula inner.workspace =
      evaluator.answer sheet inner := by
  obtain ⟨-, parsed, -, asks, -⟩ := starts
  -- The cell has a name, which is in capital letters.
  have on := (asks_named plain outer parsed asks).1.onSheet
  exact (Evaluator.evaluate_eq_answer plain sheet _ _ _).trans (by rw [Position.upper_id on])

/-- All the ways in which a request can end, each with the workspace that it leaves. -/
inductive Ends (evaluator : Evaluator) (sheet : Sheet) (request : Request) :
    Except Failure Value → Workspace → Prop where
  /-- The cell is pending already. -/
  | pending (waits : request.id ∈ request.workspace.pending) :
    Ends evaluator sheet request
      (.error (.formula (.circular (request.workspace.pathFrom request.id)))) request.workspace
  /-- There is no depth left. -/
  | deep (deep : evaluator.maxDepth ≤ request.workspace.pending.length) :
    Ends evaluator sheet request (.error (.formula (.tooDeep evaluator.maxDepth request.id)))
      request.workspace
  /-- A literal of the formula is faulty. -/
  | faulty {f : Fault} (faulty : Expr.ofFormula request.formula = .error (.fault f)) :
    Ends evaluator sheet request (.error (.fault f)) request.workspace
  /-- The formula is not read, which is recorded. -/
  | unread {e : FormulaError} (unread : Expr.ofFormula request.formula = .error (.formula e)) :
    Ends evaluator sheet request (.error (.formula e))
      { request.workspace with
        graph := request.workspace.graph.setDependencies request.id [] (some request.formula) }
  /-- The search finds a cycle. -/
  | closes {e : Expr} {path : List CellId} (closes : request.Closes evaluator.maxDepth e path) :
    Ends evaluator sheet request (.error (.formula (.circular path)))
      { request.entered e with pending := request.workspace.pending }
  /-- The expression of the formula is evaluated. -/
  | evaluated {e : Expr} {outcome : Except Failure Value} {last : Workspace}
    (accepted : request.Accepted evaluator.maxDepth)
    (parsed : Expr.ofFormula request.formula = .ok e)
    (acyclic : (request.entered e).graph.cycleFrom? request.id = none)
    (run : evaluator.evaluateAlone (readCell sheet (evaluator.evaluate sheet)) e
      (request.entered e) = (outcome, last)) :
    Ends evaluator sheet request outcome { last with pending := last.pending.tail }

/-- A request that is taken up is answered by evaluating its formula while its cell is pending. -/
theorem answer_of_accepted {outcome : Except Failure Value} {last : Workspace}
    (accepted : request.Accepted evaluator.maxDepth)
    (run : evaluator.evaluateFormula (readCell sheet (evaluator.evaluate sheet)) request.id
      request.formula
      { request.workspace with pending := request.id :: request.workspace.pending } =
        (outcome, last)) :
    evaluator.answer sheet request = (outcome, { last with pending := last.pending.tail }) := by
  -- While the formula is evaluated its cell is pending, and then it is taken off.
  rw [answer, evaluateOnce_of_accepted accepted, inside_run run]

/-- A request ends in one of these ways. -/
theorem answer_ends (evaluator : Evaluator) (sheet : Sheet) (request : Request) :
    Ends evaluator sheet request (evaluator.answer sheet request).1
      (evaluator.answer sheet request).2 := by
  by_cases accepted : request.Accepted evaluator.maxDepth
  · -- What is left of a request that is taken up depends on whether its formula is read.
    cases parsed : Expr.ofFormula request.formula with
    | error failure =>
      cases failure with
      | fault f =>
        rw [answer_of_accepted accepted (evaluateFormula_of_fault parsed)]
        exact .faulty parsed
      | formula e =>
        rw [answer_of_accepted accepted (evaluateFormula_of_unread parsed)]
        exact .unread parsed
    | ok e =>
      obtain ⟨outcome, last, run⟩ := exists_run (evaluator.evaluateFormula
        (readCell sheet (evaluator.evaluate sheet)) request.id request.formula)
        { request.workspace with pending := request.id :: request.workspace.pending }
      rw [answer_of_accepted accepted run]
      rw [evaluateFormula_of_ok parsed (request.entered e) rfl] at run
      -- The search decides whether the expression is evaluated at all.
      cases search : (request.entered e).graph.cycleFrom? request.id with
      | some path =>
        rw [search] at run
        cases run
        exact .closes ⟨accepted, parsed, search⟩
      | none =>
        rw [search] at run
        exact .evaluated accepted parsed search run
  · rw [answer, evaluateOnce_of_refused accepted]
    -- The guard against pending cells comes before the one for the depth.
    by_cases waits : request.id ∈ request.workspace.pending
    · rw [if_pos waits]
      exact .pending waits
    · rw [if_neg waits]
      exact .deep (Request.deep_of_refused accepted waits)

/-- What is known of the answer to a request is one of the ways in which it ends. -/
theorem Ends.of_answer {outcome : Except Failure Value}
    (answers : evaluator.answer sheet request = (outcome, after)) :
    Ends evaluator sheet request outcome after := by
  have ends := answer_ends evaluator sheet request
  rwa [answers] at ends

/--
A request that ends with a circular reference is for a cell that is pending, or the search finds a
cycle when its formula is recorded, or a request that it starts ends with the same failure.
-/
theorem answer_circular (plain : evaluator.registry.Plain) {error : FormulaError}
    (failed : evaluator.answer sheet request = (.error (.formula error), after))
    (circular : error.kind = .circularReference) :
    request.id ∈ request.workspace.pending ∨
      (∃ e path, request.Closes evaluator.maxDepth e path ∧ error = .circular path ∧
        (request.entered e).graph = after.graph) ∨
      ∃ inner last, Inner evaluator sheet request inner ∧ last.graph = after.graph ∧
        evaluator.answer sheet inner = (.error (.formula error), last) := by
  -- Only three of the ways can end with a circular reference.
  cases Ends.of_answer failed with
  | pending waits => exact .inl waits
  | deep => cases circular
  | unread unread =>
    -- What the text of a formula explains is no circular reference.
    have misread := (Expr.ofFormula_delivers request.formula).kind_mem unread
    rw [circular] at misread
    exact absurd misread (by decide)
  | closes closes => exact .inr (.inl ⟨_, _, closes, rfl, rfl⟩)
  | @evaluated e _ last accepted parsed acyclic run =>
    rcases failsBy_alone plain run with ⟨p, u, asks, cause⟩ | among
    · -- A cell without a formula does not fail.
      have on := (asks_named plain request parsed asks).1.onSheet
      cases has : Sheet.formulaAt sheet p with
      | none =>
        rw [readCell_eq_seen, Sheet.seen_of_none has] at cause
        cases cause
      | some own =>
        rw [readCell_eq_answer plain on has] at cause
        exact .inr (.inr ⟨_, last, ⟨accepted, parsed, acyclic, asks, has⟩, rfl, cause⟩)
    · -- Nor do values fail with a circular reference.
      have kind : error.kind ∈ meaningKinds := among
      rw [circular] at kind
      exact absurd kind (by decide)

end Evaluator
end Spreadsheet
