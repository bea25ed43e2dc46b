import Spreadsheet.Proofs.Evaluator.Asked

/-!
Evaluations inside one another, without a bound on how many: each one starts others for the cells that
its formula asks for, and every one that is taken up has one more cell pending than the one around it.
-/

namespace Spreadsheet

open Relation Evaluation Stateful

/-- An evaluation that is asked for: of a formula for a cell, in a workspace. -/
structure Request where
  id : CellId
  formula : String
  workspace : Workspace

namespace Request

/-- A request is taken up: its cell is not pending, and there is some depth left. -/
structure Accepted (maxDepth : Int) (request : Request) : Prop where
  fresh : request.id ∉ request.workspace.pending
  shallow : request.workspace.pending.length < maxDepth

/-- A request is refused for its depth where its cell is not pending. -/
theorem deep_of_refused {maxDepth : Int} {request : Request} (refused : ¬ request.Accepted maxDepth)
    (fresh : request.id ∉ request.workspace.pending) :
    maxDepth ≤ request.workspace.pending.length := by
  -- Both conditions together would accept the request.
  by_contra shallow
  exact refused ⟨fresh, not_le.mp shallow⟩

/-- The cells that are pending while a request is worked on. -/
def stack (maxDepth : Int) (request : Request) : List CellId :=
  -- A request that is refused adds nothing.
  if request.id ∈ request.workspace.pending ∨ maxDepth ≤ request.workspace.pending.length then
    request.workspace.pending
  else request.id :: request.workspace.pending

/-- The workspace in which the expression of a request that was taken up is evaluated. -/
def entered (request : Request) (e : Expr) : Workspace :=
  -- The cell is pending and recorded.
  { graph :=
      request.workspace.graph.setDependencies request.id e.references (some request.formula)
    pending := request.id :: request.workspace.pending }

end Request

namespace Evaluator

variable {evaluator : Evaluator} {sheet : Sheet} {id : CellId} {formula : String} {w : Workspace}
  {outer inner start : Request} {nested : CellId → String → Evaluation Value}

/-- One level of an evaluation; `nested` evaluates the formulas of the cells that are read. -/
def evaluateOnce (evaluator : Evaluator) (sheet : Sheet)
    (nested : CellId → String → Evaluation Value) (id : CellId) (formula : String) :
    Evaluation Value := do
  -- The depth is that of the pending cells.
  let w ← get
  if id ∈ w.pending then refuse (.circular (w.pathFrom id))
  if evaluator.maxDepth ≤ w.pending.length then refuse (.tooDeep evaluator.maxDepth id)
  inside id <| evaluator.evaluateFormula (readCell sheet nested) id formula

/-- An evaluation starts another one inside it: of the formula of a cell that its own asks for. -/
inductive Inner (evaluator : Evaluator) (sheet : Sheet) (outer : Request) : Request → Prop
  | intro {e : Expr} {p : Position} {formula : String} {w : Workspace}
    (accepted : outer.Accepted evaluator.maxDepth) (parsed : Expr.ofFormula outer.formula = .ok e)
    (acyclic : (outer.entered e).graph.cycleFrom? outer.id = none)
    (asks : e.Asks evaluator.registry (readCell sheet (evaluator.evaluate sheet)) (outer.entered e)
      p w)
    (has : Sheet.formulaAt sheet p = some formula) : Inner evaluator sheet outer ⟨p.id, formula, w⟩

/-- With any room, an evaluation leaves the pending cells as they were. -/
theorem evaluateWithin_pending (plain : evaluator.registry.Plain) (sheet : Sheet) (room : Nat)
    (id : CellId) (formula : String) (w : Workspace) :
    (evaluator.evaluateWithin sheet room id formula w).2.pending = w.pending := by
  -- The sheet has the formula of every cell but the own one, which is replaced.
  have agree : Agrees (Sheet.formulasWith sheet id formula) sheet (id :: w.pending) := by
    intro q named free
    refine agrees_formulasWith sheet id formula q named fun same => free ?_
    exact List.mem_cons.mpr (.inl (List.mem_singleton.mp same))
  exact (evaluateWithin_within plain (.inl (if_pos rfl)) agree).1

/-- An evaluation leaves the pending cells as they were. -/
theorem evaluate_pending (plain : evaluator.registry.Plain) (sheet : Sheet) (id formula : String)
    (w : Workspace) : (evaluator.evaluate sheet id formula w).2.pending = w.pending :=
  evaluateWithin_pending plain sheet _ _ formula w

/-- Reading a cell leaves the pending cells as they were. -/
theorem readCell_pending (plain : evaluator.registry.Plain) (sheet : Sheet) (pending : List CellId)
    (p : Position) :
    Keeps (fun w => w.pending = pending) (readCell sheet (evaluator.evaluate sheet) p) := by
  -- Either the value is there, or the formula of the cell is evaluated.
  rw [readCell_eq_seen]
  cases Sheet.seen sheet p with
  | value v => exact .pure v
  | formula own => exact fun w before => (evaluate_pending plain sheet p.id own w).trans before

/-- A cell that is asked for has a name, and the cells pending there are those of the request. -/
theorem asks_named {e : Expr} {p : Position} (plain : evaluator.registry.Plain) (outer : Request)
    (parsed : Expr.ofFormula outer.formula = .ok e)
    (asks : e.Asks evaluator.registry (readCell sheet (evaluator.evaluate sheet)) (outer.entered e)
      p w) : p.Named ∧ w.pending = outer.id :: outer.workspace.pending := by
  -- Every read leaves the pending cells, so they are the same where the cell is asked for.
  have each : ∀ p ∈ e.positions, Keeps (fun w => w.pending = outer.id :: outer.workspace.pending)
      (readCell sheet (evaluator.evaluate sheet) p) := fun p _ => readCell_pending plain sheet _ p
  obtain ⟨member, pending⟩ := Expr.asks_keeps plain e each rfl asks
  exact ⟨(Expr.ofFormula_delivers outer.formula).of_ok parsed p member, pending⟩

/-- An evaluation inside another one has the cell of the other one pending. -/
theorem Inner.pending (plain : evaluator.registry.Plain) (starts : Inner evaluator sheet outer inner) :
    outer.Accepted evaluator.maxDepth ∧
      inner.workspace.pending = outer.id :: outer.workspace.pending := by
  -- Of what starts an evaluation only the acceptance and the cells asked for matter here.
  obtain ⟨accepted, parsed, -, asks, -⟩ := starts
  exact ⟨accepted, (asks_named plain outer parsed asks).2⟩

/-- A request that is refused is refused at once. -/
theorem evaluateOnce_of_refused (refused : ¬ (Request.mk id formula w).Accepted evaluator.maxDepth) :
    evaluator.evaluateOnce sheet nested id formula w =
      (.error (.formula (if id ∈ w.pending then .circular (w.pathFrom id)
        else .tooDeep evaluator.maxDepth id)), w) := by
  unfold evaluateOnce
  -- The two guards stand in front of everything else.
  show (if id ∈ w.pending then _ else if evaluator.maxDepth ≤ w.pending.length then _ else _ :
    Evaluation Value) w = _
  -- The guard against a pending cell comes first, the one for the depth second.
  by_cases waits : id ∈ w.pending
  · rw [if_pos waits, if_pos waits]
    rfl
  · have deep : evaluator.maxDepth ≤ w.pending.length := Request.deep_of_refused refused waits
    rw [if_neg waits, if_pos deep, if_neg waits]
    rfl

/-- A request that is taken up has its formula evaluated while its cell is pending. -/
theorem evaluateOnce_of_accepted (accepted : (Request.mk id formula w).Accepted evaluator.maxDepth) :
    evaluator.evaluateOnce sheet nested id formula w =
      inside id (evaluator.evaluateFormula (readCell sheet nested) id formula) w := by
  unfold evaluateOnce
  show (if id ∈ w.pending then _ else if evaluator.maxDepth ≤ w.pending.length then _ else _ :
    Evaluation Value) w = _
  rw [if_neg accepted.fresh, if_neg (not_le.mpr accepted.shallow)]

/-- The formula of a pending cell depends on what is read where its cells are asked for. -/
theorem inside_congr {read read' : Position → Evaluation Value}
    (same : ∀ e p u, Expr.ofFormula formula = .ok e →
      ((Request.mk id formula w).entered e).graph.cycleFrom? id = none →
      e.Asks evaluator.registry read ((Request.mk id formula w).entered e) p u →
      read p u = read' p u) :
    inside id (evaluator.evaluateFormula read id formula) w =
      inside id (evaluator.evaluateFormula read' id formula) w := by
  -- The formula is evaluated in a workspace with its cell on the stack.
  have within : evaluator.evaluateFormula read id formula { w with pending := id :: w.pending } =
      evaluator.evaluateFormula read' id formula { w with pending := id :: w.pending } := by
    refine evaluateFormula_congr_of_asks fun e recorded parsed after acyclic p u asks => ?_
    subst after
    exact same e p u parsed acyclic asks
  unfold inside
  rw [within]

/-- One level of an evaluation depends on how the evaluations that it starts come out. -/
theorem evaluateOnce_congr
    (same : ∀ t, Inner evaluator sheet ⟨id, formula, w⟩ t →
      evaluator.evaluate sheet t.id t.formula t.workspace = nested t.id t.formula t.workspace) :
    evaluator.evaluateOnce sheet (evaluator.evaluate sheet) id formula w =
      evaluator.evaluateOnce sheet nested id formula w := by
  -- Only an accepted request starts evaluations.
  by_cases accepted : (Request.mk id formula w).Accepted evaluator.maxDepth
  · rw [evaluateOnce_of_accepted accepted, evaluateOnce_of_accepted accepted]
    refine inside_congr fun e p u parsed acyclic asks => readCell_congr fun own has => ?_
    exact same ⟨p.id, own, u⟩ ⟨accepted, parsed, acyclic, asks, has⟩
  · rw [evaluateOnce_of_refused accepted, evaluateOnce_of_refused accepted]

/-- With as much room as there is depth left, an evaluation is one level and the evaluations in it. -/
theorem evaluateWithin_eq_once (plain : evaluator.registry.Plain) :
    evaluator.evaluateWithin sheet (evaluator.maxDepth - w.pending.length).toNat id formula w =
      evaluator.evaluateOnce sheet (evaluator.evaluate sheet) id formula w := by
  by_cases accepted : (Request.mk id formula w).Accepted evaluator.maxDepth
  · -- There is some depth left, so there is some room.
    have shallow : (w.pending.length : Int) < evaluator.maxDepth := accepted.shallow
    obtain ⟨room, more⟩ : ∃ room, (evaluator.maxDepth - w.pending.length).toNat = room + 1 :=
      Nat.exists_eq_succ_of_ne_zero (by omega)
    rw [evaluateOnce_of_accepted accepted, more, evaluateWithin_succ accepted.fresh]
    -- Where a cell is asked for, one cell more is pending and one step of the room is used.
    refine (inside_congr fun e p u parsed _ asks => readCell_congr fun own _ => ?_).symm
    obtain ⟨named, pending⟩ := asks_named plain ⟨id, formula, w⟩ parsed asks
    show evaluator.evaluateWithin sheet (evaluator.maxDepth - u.pending.length).toNat
      (Text.upper p.id) own u = _
    have left : (evaluator.maxDepth - u.pending.length).toNat = room := by
      simp only [pending, List.length_cons]
      omega
    rw [left, Position.upper_id named.onSheet]
  · rw [evaluateOnce_of_refused accepted]
    -- A refusal does not depend on the room, unless it is that for the depth.
    by_cases waits : id ∈ w.pending
    · rw [evaluateWithin_of_pending waits, if_pos waits]
    · have deep : evaluator.maxDepth ≤ w.pending.length := Request.deep_of_refused accepted waits
      have none : (evaluator.maxDepth - w.pending.length).toNat = 0 := by omega
      rw [none, evaluateWithin_zero waits, if_neg waits]

/-- An evaluation is one level and the evaluations that it starts, however those are come by. -/
theorem evaluate_eq_once (plain : evaluator.registry.Plain) {id formula : String}
    (same : ∀ t, Inner evaluator sheet ⟨Text.upper id, formula, w⟩ t →
      evaluator.evaluate sheet t.id t.formula t.workspace = nested t.id t.formula t.workspace) :
    evaluator.evaluate sheet id formula w =
      evaluator.evaluateOnce sheet nested (Text.upper id) formula w :=
  (evaluateWithin_eq_once plain).trans (evaluateOnce_congr same)

/-- Evaluations inside one another come to an end. -/
theorem wellFounded_inner (plain : evaluator.registry.Plain) (sheet : Sheet) :
    WellFounded fun inner outer => Inner evaluator sheet outer inner := by
  -- Each one has less depth left than the one around it.
  refine Subrelation.wf (r := InvImage (· < ·) fun t : Request =>
    (evaluator.maxDepth - t.workspace.pending.length).toNat) ?_ (InvImage.wf _ Nat.lt_wfRel.wf)
  intro inner outer starts
  obtain ⟨accepted, pending⟩ := starts.pending plain
  -- The limit has not been reached outside, so there is less left inside.
  have shallow := accepted.shallow
  show (evaluator.maxDepth - inner.workspace.pending.length).toNat <
    (evaluator.maxDepth - outer.workspace.pending.length).toNat
  rw [pending, List.length_cons]
  omega

/-- What is pending inside an evaluation is distinct, and as deep as the limit or what was before. -/
theorem pending_of_inner (plain : evaluator.registry.Plain) (distinct : start.workspace.pending.Nodup)
    (inside : ReflTransGen (Inner evaluator sheet) start inner) :
    inner.workspace.pending.Nodup ∧ (inner.workspace.pending.length : Int) ≤
      max evaluator.maxDepth start.workspace.pending.length := by
  -- The induction is along the evaluations from the outermost one inwards.
  induction inside with
  | refl => exact ⟨distinct, le_max_right _ _⟩
  | tail _ starts ih =>
    obtain ⟨accepted, pending⟩ := starts.pending plain
    -- Below the limit there is place for one more cell, and it was not pending.
    have shallow := accepted.shallow
    rw [pending, List.length_cons]
    exact ⟨List.nodup_cons.mpr ⟨accepted.fresh, ih.1⟩, le_max_of_le_left (by omega)⟩

/-- The cells of a request are distinct and within the depth if those pending before are. -/
theorem stack_of_pending {maxDepth bound : Int} (distinct : inner.workspace.pending.Nodup)
    (short : (inner.workspace.pending.length : Int) ≤ bound) (deep : maxDepth ≤ bound) :
    (inner.stack maxDepth).Nodup ∧ ((inner.stack maxDepth).length : Int) ≤ bound := by
  unfold Request.stack
  -- A request that is refused adds no cell to the stack.
  split
  · exact ⟨distinct, short⟩
  · rename_i accepted
    rw [not_or, not_le] at accepted
    refine ⟨List.nodup_cons.mpr ⟨accepted.1, distinct⟩, ?_⟩
    rw [List.length_cons]
    omega

/--
Evaluation ends and leaves the pending cells as it found them. Each evaluation is one level of the
evaluator and the evaluations that it starts inside, of which there is no infinite chain. Whatever
evaluation is inside another one, it leaves what was pending when it started, and while it runs the
pending cells are distinct and no more than the depth, or than there were at the outset.
-/
theorem evaluate_unwinds (maxDepth : Int) (sheet : Sheet) (id formula : String) (w : Workspace)
    (distinct : w.pending.Nodup) :
    (∀ nested : CellId → String → Evaluation Value,
      (∀ t, Inner (builtin maxDepth) sheet ⟨Text.upper id, formula, w⟩ t →
        (builtin maxDepth).evaluate sheet t.id t.formula t.workspace =
          nested t.id t.formula t.workspace) →
      (builtin maxDepth).evaluate sheet id formula w =
        (builtin maxDepth).evaluateOnce sheet nested (Text.upper id) formula w) ∧
    WellFounded (fun inner outer => Inner (builtin maxDepth) sheet outer inner) ∧
    ((builtin maxDepth).evaluate sheet id formula w).2.pending = w.pending ∧
    ∀ t, ReflTransGen (Inner (builtin maxDepth) sheet) ⟨Text.upper id, formula, w⟩ t →
      ((builtin maxDepth).evaluate sheet t.id t.formula t.workspace).2.pending =
        t.workspace.pending ∧
      (t.stack maxDepth).Nodup ∧ ((t.stack maxDepth).length : Int) ≤ max maxDepth w.pending.length := by
  have plain : (builtin maxDepth).registry.Plain := Registry.plain_builtin
  refine ⟨fun nested same => evaluate_eq_once plain same, wellFounded_inner plain sheet,
    evaluate_pending plain sheet id formula w, fun t inside => ?_⟩
  -- The first part is about the stack that an evaluation starts with, the second about its end.
  obtain ⟨fresh, short⟩ := pending_of_inner plain distinct inside
  exact ⟨evaluate_pending plain sheet t.id t.formula t.workspace,
    stack_of_pending fresh short (le_max_left _ _)⟩

/-- A sheet whose second cell refers to the first one, which has a formula as well. -/
def steps : Sheet :=
  ((Grid.empty.put ⟨0, 0⟩ ⟨.blank, some "=1", .text⟩).put ⟨1, 0⟩ ⟨.blank, some "=A1", .text⟩).sheet

/-- A reference to the second cell starts its evaluation inside the cell that was asked for. -/
theorem evaluate_unwinds_steps : ["Z9"].Nodup ∧
    ((builtin 3).evaluate steps "C1" "=B1" ⟨.empty, ["Z9"]⟩).2.pending = ["Z9"] ∧
    ∃ t, Inner (builtin 3) steps ⟨Text.upper "C1", "=B1", ⟨.empty, ["Z9"]⟩⟩ t ∧
      t.stack 3 = ["B1", "C1", "Z9"] ∧ (t.stack 3).Nodup := by
  -- The list of pending cells has one element.
  have distinct : ["Z9"].Nodup := List.nodup_singleton "Z9"
  have starts : Inner (builtin 3) steps ⟨Text.upper "C1", "=B1", ⟨.empty, ["Z9"]⟩⟩
      ⟨(⟨1, 0⟩ : Position).id, "=A1",
        (Request.mk (Text.upper "C1") "=B1" ⟨.empty, ["Z9"]⟩).entered (.cell ⟨1, 0⟩)⟩ :=
    .intro ⟨by decide, by decide⟩ (by with_unfolding_all rfl) (by with_unfolding_all rfl) .cell rfl
  obtain ⟨-, -, unwound, inside⟩ :=
    evaluate_unwinds 3 steps "C1" "=B1" ⟨.empty, ["Z9"]⟩ distinct
  exact ⟨distinct, unwound, _, starts, by with_unfolding_all rfl, (inside _ (.single starts)).2.1⟩

end Evaluator
end Spreadsheet
