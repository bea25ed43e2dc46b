import Spreadsheet.Proofs.Evaluator.Acyclic
import Spreadsheet.Proofs.Evaluator.Guarded
import Spreadsheet.Proofs.Graph.Cycle
import Spreadsheet.Proofs.Graph.Recorded

/-!
An evaluation that is repeated on the records that it left does the same again and leaves them alone,
whatever was recorded before it: the formulas that it recorded are recorded already, and the search
finds a cycle again only if the evaluation ended with one.
-/

namespace Spreadsheet

open Relation DependencyGraph Evaluation Stateful

variable {formulas : Formulas} {graph later last : DependencyGraph} {evaluator : Evaluator}
  {sheet : Sheet} {start request : Request} {pending : List CellId} {x id : CellId} {e : Expr}
  {w after : Workspace} {formula text : String} {room : Nat} {outcome : Except Failure Value}
  {α : Type}

namespace DependencyGraph

/-- A formula is recorded for a cell with what it refers to. -/
abbrev Tracks (graph : DependencyGraph) (x : CellId) (text : String) : Prop :=
  graph.Recorded x (Expr.referencesIn text) text

/-- Every formula that one graph has recorded is recorded in a later one. -/
def Retains (formulas : Formulas) (graph later : DependencyGraph) : Prop :=
  -- What is recorded besides formulas may change.
  ∀ x text, formulas x = some text → graph.Tracks x text → later.Tracks x text

theorem Retains.refl (formulas : Formulas) (graph : DependencyGraph) :
    Retains formulas graph graph := fun _ _ _ tracks => tracks

theorem Retains.trans (first : Retains formulas graph later) (second : Retains formulas later last) :
    Retains formulas graph last := fun x text has tracks =>
  second x text has (first x text has tracks)

/-- A cell whose formula is recorded reads what the formula refers to. -/
theorem Recorded.reads_of_mem {references : List CellId} (recorded : graph.Recorded x references text)
    (refers : id ∈ references) : graph.Reads x id := by
  rw [Reads, recorded.dependenciesOf]
  simpa using refers

end DependencyGraph

/-- Recording the formulas of any cells leaves every formula recorded that was. -/
theorem recordingKeeps_tracks (has : formulas x = some text) :
    RecordingKeeps formulas (fun _ => True) (fun later => later.Tracks x text) := by
  -- Either the cell itself is recorded anew, with the same formula, or another one is.
  refine ⟨fun _ _ => trivial, fun {later y own} _ has' tracks => ?_⟩
  by_cases same : x = y
  · subst same
    cases has.symm.trans has'
    exact recorded_setDependencies _ _ _ _
  · exact tracks.setDependencies same _ _

/-- So the records that are left retain those that there were. -/
theorem recordingKeeps_retains (formulas : Formulas) (graph : DependencyGraph) :
    RecordingKeeps formulas (fun _ => True) (Retains formulas graph) :=
  ⟨fun _ _ => trivial, fun _ has' retains y own has tracks =>
    (recordingKeeps_tracks has).record trivial has' (retains y own has tracks)⟩

/--
An evaluation does the same on records that retain what it leaves, and leaves them alone, unless it ends
with a circular reference.
-/
def Replays (formulas : Formulas) (pending : List CellId) (last : DependencyGraph)
    (work : Evaluation α) : Prop :=
  -- What it leaves itself retains what there was.
  ∀ w, w.pending = pending → Pends pending (Retains formulas w.graph) (work w).2 ∧
    (¬ EndsCircular (work w).1 → Retains formulas (work w).2.graph last →
      work ⟨last, pending⟩ = ((work w).1, ⟨last, pending⟩))

/-- An evaluation replays if its parts do. -/
theorem compositional_replays (formulas : Formulas) (pending : List CellId)
    (last : DependencyGraph) :
    Compositional fun {α} (work : Evaluation α) => Replays formulas pending last work := by
  refine ⟨fun outcome w here => ?_, fun {α β work next} first second w here => ?_⟩
  · -- What does not touch the workspace replays at once.
    cases outcome <;> exact ⟨⟨here, .refl _ _⟩, fun _ _ => rfl⟩
  · obtain ⟨⟨here', retains⟩, replays⟩ := first w here
    rw [bind_run, bind_run]
    -- The outcome of the first part decides whether there is a second one.
    cases ended : (work w).1 with
    | error failure =>
      rw [ended] at replays
      refine ⟨⟨here', retains⟩, fun plainly retained => ?_⟩
      -- The whole ends as its first part does, which is not a circular reference.
      rw [replays (by rintro ⟨path, ⟨⟩⟩; exact plainly ⟨path, rfl⟩) retained]
    | ok a =>
      rw [ended] at replays
      obtain ⟨⟨here'', retains'⟩, replays'⟩ := second a (work w).2 here'
      refine ⟨⟨here'', retains.trans retains'⟩, fun plainly retained => ?_⟩
      -- The first part left no more than the second one did.
      rw [replays (by rintro ⟨path, ⟨⟩⟩) (retains'.trans retained)]
      exact replays' plainly retained

namespace Evaluator

/-- Unless a literal in it is faulty, a formula is recorded once it has been evaluated. -/
theorem evaluateFormula_tracks (plain : evaluator.registry.Plain) (has : formulas id = some formula)
    (agree : Agrees formulas sheet pending) (here : w.pending = pending)
    (run : evaluator.evaluateFormula (readCell sheet (evaluator.evaluateWithin sheet room)) id
      formula w = (outcome, after))
    (sound : ∀ f, Expr.ofFormula formula ≠ .error (.fault f)) : after.graph.Tracks id formula := by
  -- Recording is the first thing that happens, unless the text cannot be read.
  have recorded : (w.graph.setDependencies id (Expr.referencesIn formula) (some formula)).Tracks id
      formula := recorded_setDependencies _ _ _ _
  cases parsed : Expr.ofFormula formula with
  | error failure =>
    cases failure with
    | fault f => exact absurd parsed (sound f)
    | formula e =>
      -- A text that is refused is recorded without references.
      rw [evaluateFormula_of_unread parsed, ← Expr.referencesIn_of_error parsed] at run
      cases run
      exact recorded
  | ok e =>
    obtain ⟨entered, same⟩ : ∃ entered : Workspace, entered =
      { w with graph := w.graph.setDependencies id e.references (some formula) } := ⟨_, rfl⟩
    have tracks : entered.graph.Tracks id formula := by
      rwa [same, ← Expr.referencesIn_of_ok parsed]
    have inside : entered.pending = pending := by rw [same, here]
    -- From the recorded formula on the search decides.
    rw [evaluateFormula_of_ok parsed entered same] at run
    cases search : entered.graph.cycleFrom? id with
    | some cycle =>
      -- The search ends the evaluation with the records as they are.
      rw [search] at run
      cases run
      exact tracks
    | none =>
      simp only [search] at run
      -- Nothing that is read from here on records another formula for the cell.
      have kept := recordingKeeps_tracks has
      have reads : ∀ p ∈ e.positions, Keeps (Pends pending (·.Tracks id formula))
          (readCell sheet (evaluator.evaluateWithin sheet room) p) :=
        reads_pend kept trivial has agree parsed fun p own _ has scope agree =>
          evaluateWithin_pends plain kept scope has agree
      -- Reading the cells keeps what is recorded for the own one.
      have keeps := evaluateAlone_composes (.keeps _) plain e reads entered ⟨inside, tracks⟩
      rw [run] at keeps
      exact keeps.2

/-- Reading the cells of a recorded formula replays if evaluating their formulas does. -/
theorem reads_replay {nested : CellId → String → Evaluation Value}
    (agree : Agrees formulas sheet pending) (parsed : Expr.ofFormula formula = .ok e)
    (tracks : last.Tracks id formula) (clear : ¬ CycleBehind last.Reads id)
    (inner : ∀ (p : Position) own, formulas p.id = some own ∨ p.id ∈ pending →
      Agrees formulas sheet (p.id :: pending) → ¬ CycleBehind last.Reads p.id →
      Replays formulas pending last (nested p.id own)) :
    ∀ p ∈ e.positions, Replays formulas pending last (readCell sheet nested p) := by
  intro p member
  -- What the formula reads is a position with a name.
  have named := (Expr.ofFormula_delivers formula).of_ok parsed p member
  -- A cycle behind the cell that is read would lie behind the one that reads it.
  have reads : last.Reads id p.id := tracks.reads_of_mem (Expr.mem_referencesIn parsed member)
  refine readCell_composes (compositional_replays formulas pending last) fun own stands => ?_
  exact inner p own (agree.formula_or_pending named stands) (agree.push p.id) fun cycle =>
    clear (cycle.head reads)

/-- Evaluating a formula replays if evaluating those of the cells that it reads does. -/
theorem evaluateFormula_replays (plain : evaluator.registry.Plain)
    (has : formulas id = some formula) (agree : Agrees formulas sheet pending)
    (acyclic : ∀ e, Expr.ofFormula formula = .ok e → ¬ CycleBehind last.Reads id)
    (inner : ∀ (p : Position) own, formulas p.id = some own ∨ p.id ∈ pending →
      Agrees formulas sheet (p.id :: pending) → ¬ CycleBehind last.Reads p.id →
      Replays formulas pending last (evaluator.evaluateWithin sheet room p.id own))
    (here : w.pending = pending)
    (run : evaluator.evaluateFormula (readCell sheet (evaluator.evaluateWithin sheet room)) id
      formula w = (outcome, after))
    (plainly : ¬ EndsCircular outcome) (retained : Retains formulas after.graph last) :
    evaluator.evaluateFormula (readCell sheet (evaluator.evaluateWithin sheet room)) id formula
      ⟨last, pending⟩ = (outcome, ⟨last, pending⟩) := by
  -- The formula is among the ones that the records retain.
  have tracks : (∀ f, Expr.ofFormula formula ≠ .error (.fault f)) → last.Tracks id formula :=
    fun sound => retained id formula has (evaluateFormula_tracks plain has agree here run sound)
  cases parsed : Expr.ofFormula formula with
  | error failure =>
    cases failure with
    | fault f =>
      -- A fault ends both evaluations before anything is recorded.
      rw [evaluateFormula_of_fault parsed] at run ⊢
      cases run
      rfl
    | formula e =>
      -- Recording the same formula again changes nothing.
      have same := (tracks (by simp [parsed])).setDependencies_eq
      rw [Expr.referencesIn_of_error parsed] at same
      rw [evaluateFormula_of_unread parsed] at run ⊢
      cases run
      rw [same]
  | ok e =>
    have tracks := tracks (by simp [parsed])
    have clear := acyclic e parsed
    have same := tracks.setDependencies_eq
    rw [Expr.referencesIn_of_ok parsed] at same
    obtain ⟨entered, recorded⟩ : ∃ entered : Workspace, entered =
      { w with graph := w.graph.setDependencies id e.references (some formula) } := ⟨_, rfl⟩
    -- The second evaluation starts with the own cell pending as the first one did.
    have inside : entered.pending = pending := by rw [recorded, here]
    rw [evaluateFormula_of_ok parsed entered recorded] at run
    -- No cycle lies behind the cell on the later records, so the search finds none this time.
    rw [evaluateFormula_of_ok parsed ⟨last, pending⟩ (by rw [same]),
      cycleFrom?_eq_none_iff.mpr clear]
    cases search : entered.graph.cycleFrom? id with
    | some cycle =>
      rw [search] at run
      cases run
      -- The first evaluation would have ended with a circular reference.
      exact absurd ⟨cycle, rfl⟩ plainly
    | none =>
      simp only [search] at run
      -- Neither search finds a cycle, and the reads replay one by one.
      have replays := evaluateAlone_composes (compositional_replays formulas pending last) plain e
        (reads_replay agree parsed tracks clear inner) entered inside
      rw [run] at replays
      exact replays.2 plainly retained

/-- An evaluation replays if it does for a cell that is not pending: any other one is refused. -/
theorem evaluateWithin_replays_of_fresh (plain : evaluator.registry.Plain)
    (has : formulas id = some formula ∨ id ∈ pending) (agree : Agrees formulas sheet (id :: pending))
    (replays : id ∉ pending → ∀ w, w.pending = pending →
      ¬ EndsCircular (evaluator.evaluateWithin sheet room id formula w).1 →
      Retains formulas (evaluator.evaluateWithin sheet room id formula w).2.graph last →
      evaluator.evaluateWithin sheet room id formula ⟨last, pending⟩ =
        ((evaluator.evaluateWithin sheet room id formula w).1, ⟨last, pending⟩)) :
    Replays formulas pending last (evaluator.evaluateWithin sheet room id formula) := by
  rintro w rfl
  -- That the records are retained is known; only the second evaluation is to be shown.
  refine ⟨evaluateWithin_pends plain (recordingKeeps_retains formulas w.graph) trivial has agree w
    ⟨rfl, .refl _ _⟩, fun plainly retained => ?_⟩
  by_cases waits : id ∈ w.pending
  · -- A pending cell is refused with a circular reference, which is excluded.
    rw [evaluateWithin_of_pending waits] at plainly
    exact absurd ⟨_, rfl⟩ plainly
  · exact replays waits w rfl plainly retained

/--
With any room, evaluating a formula replays, if no cycle lies behind its cell in the records on which
it is repeated.
-/
theorem evaluateWithin_replays (plain : evaluator.registry.Plain)
    (has : formulas id = some formula ∨ id ∈ pending) (agree : Agrees formulas sheet (id :: pending))
    (acyclic : ∀ e, Expr.ofFormula formula = .ok e → ¬ CycleBehind last.Reads id) :
    Replays formulas pending last (evaluator.evaluateWithin sheet room id formula) := by
  -- The induction is on the room; the cells that are read have less of it.
  induction room generalizing id formula pending with
  | zero =>
    refine evaluateWithin_replays_of_fresh plain has agree ?_
    rintro fresh w rfl - -
    -- Without room both evaluations are refused for their depth.
    have again : id ∉ (Workspace.mk last w.pending).pending := fresh
    rw [evaluateWithin_zero fresh, evaluateWithin_zero again]
  | succ room ih =>
    refine evaluateWithin_replays_of_fresh plain has agree ?_
    rintro fresh w rfl plainly retained
    have again : id ∉ (Workspace.mk last w.pending).pending := fresh
    rw [evaluateWithin_succ fresh] at plainly retained ⊢
    rw [evaluateWithin_succ again]
    -- The formula is evaluated while its cell is pending, both times.
    obtain ⟨outcome, after, run⟩ := exists_run (evaluator.evaluateFormula
      (readCell sheet (evaluator.evaluateWithin sheet room)) id formula)
      { w with pending := id :: w.pending }
    rw [inside_run run] at plainly retained ⊢
    have replays := evaluateFormula_replays plain (has.resolve_right fresh) agree acyclic
      (fun p own has agree clear => ih has agree fun _ _ => clear) rfl run plainly retained
    exact inside_run (w := ⟨last, w.pending⟩) replays

/-- Inside an evaluation its cell stays among those that are being evaluated. -/
theorem mem_of_inside (plain : evaluator.registry.Plain)
    (inside : ReflTransGen (Inner evaluator sheet) start request) :
    start.id ∈ request.id :: request.workspace.pending := by
  -- The induction is along the evaluations from the outermost one inwards.
  induction inside with
  | refl => exact List.mem_cons_self
  | tail _ starts ih =>
    obtain ⟨-, pending⟩ := starts.pending plain
    exact List.mem_cons_of_mem _ (pending ▸ ih)

/-- A cycle that is found inside an evaluation lies behind every cell that is being evaluated. -/
theorem cycleBehind_of_closes {maxDepth : Int} {path : List CellId}
    (proper : request.Proper formulas sheet) (closes : request.Closes maxDepth e path)
    (member : x ∈ request.id :: request.workspace.pending) :
    CycleBehind (request.entered e).graph.Reads x := by
  have refreshes := (proper.entered closes.parsed).1
  -- The cell that is asked for leads to the one where the search is, and that one to the cycle.
  have reached := (proper.stacked.refresh refreshes).reaches member
  obtain ⟨cycle, y, first, onwards⟩ := cycleFrom?_eq_some closes.found
  -- The cycle begins and ends with one cell.
  obtain ⟨z, head, around⟩ := cycle.around
  cases first.symm.trans head
  exact ⟨y, reached.trans onwards, around⟩

/-- Only a formula that is read ends with a circular reference. -/
theorem parsed_of_circular {read : Position → Evaluation Value}
    (run : evaluator.evaluateFormula read id formula w = (outcome, after))
    (circular : EndsCircular outcome) : ∃ e, Expr.ofFormula formula = .ok e := by
  obtain ⟨path, rfl⟩ := circular
  -- A text that is not read fails in another way.
  cases parsed : Expr.ofFormula formula with
  | ok e => exact ⟨e, rfl⟩
  | error failure =>
    cases failure with
    | fault f =>
      rw [evaluateFormula_of_fault parsed] at run
      cases run
    | formula e =>
      rw [evaluateFormula_of_unread parsed] at run
      cases run
      -- No text is refused with a circular reference.
      have misread := (Expr.ofFormula_delivers formula).kind_mem parsed
      exact absurd misread (by simp [Expr.readingKinds, FormulaError.kind])

/-- Where a formula is recorded and a cycle lies behind its cell, evaluating it finds one. -/
theorem circular_of_tracks (fresh : id ∉ pending) (tracks : last.Tracks id formula)
    (parsed : Expr.ofFormula formula = .ok e) (cycle : CycleBehind last.Reads id) :
    ∃ path, evaluator.evaluateWithin sheet (room + 1) id formula ⟨last, pending⟩ =
      (.error (.formula (.circular path)), ⟨last, pending⟩) := by
  have same := tracks.setDependencies_eq
  -- Recording changes nothing, so the search is made on the records as they are.
  rw [Expr.referencesIn_of_ok parsed] at same
  cases search : last.cycleFrom? id with
  | none => exact absurd cycle (cycleFrom?_eq_none_iff.mp search)
  | some path =>
    -- The search stands in front of all reads.
    have run : evaluator.evaluateFormula (readCell sheet (evaluator.evaluateWithin sheet room)) id
        formula ⟨last, id :: pending⟩ =
          (.error (.formula (.circular path)), ⟨last, id :: pending⟩) := by
      rw [evaluateFormula_of_ok parsed ⟨last, id :: pending⟩ (by rw [same]), search]
    have waits : id ∉ (Workspace.mk last pending).pending := fresh
    rw [evaluateWithin_succ waits]
    exact ⟨path, inside_run (w := ⟨last, pending⟩) run⟩

/-- An evaluation that does not end with a circular reference can be repeated on what it leaves. -/
theorem evaluateWithin_again (plain : evaluator.registry.Plain) (sheet : Sheet) (room : Nat)
    (id : CellId) (formula : String) (graph : DependencyGraph)
    (plainly : ¬ EndsCircular (evaluator.evaluateWithin sheet room id formula ⟨graph, []⟩).1) :
    evaluator.evaluateWithin sheet room id formula
        (evaluator.evaluateWithin sheet room id formula ⟨graph, []⟩).2 =
      evaluator.evaluateWithin sheet room id formula ⟨graph, []⟩ := by
  cases room with
  | zero =>
    have fresh : id ∉ (Workspace.mk graph []).pending := List.not_mem_nil
    simp only [evaluateWithin_zero fresh]
  | succ room =>
    have fresh : id ∉ (Workspace.mk graph []).pending := List.not_mem_nil
    -- On what it leaves, no cycle lies behind the cell: otherwise the search would have found it.
    have acyclic : ∀ e, Expr.ofFormula formula = .ok e → ¬ CycleBehind
        (evaluator.evaluateWithin sheet (room + 1) id formula ⟨graph, []⟩).2.graph.Reads id := by
      intro e parsed
      rw [evaluateWithin_succ fresh] at plainly ⊢
      refine evaluateFormula_acyclic plain (fun p => ?_) parsed plainly
      exact readCell_composes (compositional_keepsAcyclic id) fun own _ =>
        evaluateWithin_keepsAcyclic plain sheet id room p.id own
    -- The own formula is what the formulas say of the cell.
    have has : Sheet.formulasWith sheet id formula id = some formula := if_pos rfl
    obtain ⟨⟨idle, -⟩, replays⟩ := evaluateWithin_replays plain (.inl has)
      (agrees_formulasWith sheet id formula) acyclic ⟨graph, []⟩ rfl
    have again := replays plainly (.refl _ _)
    -- The result is named, so that the evaluation in it is not unfolded.
    generalize evaluator.evaluateWithin sheet (room + 1) id formula ⟨graph, []⟩ = result at *
    obtain ⟨outcome, left, pending⟩ := result
    cases idle
    exact again

/-- An evaluation that ends with a circular reference leaves a cycle behind its cell. -/
theorem cycleBehind_of_circular (plain : evaluator.registry.Plain) (sheet : Sheet)
    (id formula : String) (graph : DependencyGraph)
    (circular : EndsCircular (evaluator.evaluate sheet id formula ⟨graph, []⟩).1) :
    CycleBehind (evaluator.evaluate sheet id formula ⟨graph, []⟩).2.graph.Reads (Text.upper id) := by
  obtain ⟨path, failed⟩ := circular
  rw [evaluate_eq_answer plain] at failed ⊢
  -- The outermost request is proper, and so are those inside, up to the one that closes the cycle.
  have proper := Request.Proper.outermost sheet (Text.upper id) formula graph
  obtain ⟨t, e, path, inside, closes, -, left⟩ :=
    exists_closes plain proper (Prod.ext failed rfl) rfl
  rw [← left]
  exact cycleBehind_of_closes (proper.reached plain inside) closes (mem_of_inside plain inside)

/-- An evaluation that ends with a circular reference does so again, and changes nothing any more. -/
theorem evaluateWithin_again_circular (plain : evaluator.registry.Plain)
    (circular : EndsCircular (evaluator.evaluateWithin sheet room id formula ⟨graph, []⟩).1)
    (cycle : CycleBehind
      (evaluator.evaluateWithin sheet room id formula ⟨graph, []⟩).2.graph.Reads id) :
    ∃ path, evaluator.evaluateWithin sheet room id formula
        (evaluator.evaluateWithin sheet room id formula ⟨graph, []⟩).2 =
      (.error (.formula (.circular path)),
        (evaluator.evaluateWithin sheet room id formula ⟨graph, []⟩).2) := by
  have fresh : id ∉ (Workspace.mk graph []).pending := List.not_mem_nil
  have idle := evaluateWithin_pending plain sheet room id formula ⟨graph, []⟩
  cases room with
  | zero =>
    -- Without room there is no circular reference.
    rw [evaluateWithin_zero fresh] at circular
    obtain ⟨path, ⟨⟩⟩ := circular
  | succ room =>
    obtain ⟨outcome, after, run⟩ := exists_run (evaluator.evaluateFormula
      (readCell sheet (evaluator.evaluateWithin sheet room)) id formula) ⟨graph, [id]⟩
    rw [evaluateWithin_succ fresh, inside_run (w := ⟨graph, []⟩) run] at circular cycle idle ⊢
    obtain ⟨e, parsed⟩ := parsed_of_circular run circular
    have has : Sheet.formulasWith sheet id formula id = some formula := if_pos rfl
    have agree := agrees_formulasWith sheet id formula
    -- The formula was recorded before the cycle was found.
    have tracks := evaluateFormula_tracks plain has agree rfl run (by simp [parsed])
    -- What is left is the graph, with nothing pending.
    dsimp only at idle ⊢
    rw [idle]
    exact circular_of_tracks List.not_mem_nil tracks parsed cycle

/--
An evaluation that is repeated on the records it has left, whatever there was before, leaves the
workspace as it is and ends as it did: with the same value, the same failure, or a circular reference
both times.
-/
theorem evaluate_twice (maxDepth : Int) (sheet : Sheet) (id formula : String)
    (graph : DependencyGraph) :
    ((builtin maxDepth).evaluate sheet id formula
        ((builtin maxDepth).evaluate sheet id formula ⟨graph, []⟩).2).2 =
      ((builtin maxDepth).evaluate sheet id formula ⟨graph, []⟩).2 ∧
    (((builtin maxDepth).evaluate sheet id formula
          ((builtin maxDepth).evaluate sheet id formula ⟨graph, []⟩).2).1 =
        ((builtin maxDepth).evaluate sheet id formula ⟨graph, []⟩).1 ∨
      EndsCircular ((builtin maxDepth).evaluate sheet id formula ⟨graph, []⟩).1 ∧
        EndsCircular ((builtin maxDepth).evaluate sheet id formula
          ((builtin maxDepth).evaluate sheet id formula ⟨graph, []⟩).2).1) := by
  have plain : (builtin maxDepth).registry.Plain := Registry.plain_builtin
  have idle := evaluate_pending plain sheet id formula ⟨graph, []⟩
  have cycle := cycleBehind_of_circular plain sheet id formula graph
  -- Nothing is pending, so the room is that of the depth in both evaluations.
  rw [evaluate_idle idle]
  rw [evaluate_idle (w := ⟨graph, []⟩) rfl] at cycle ⊢
  by_cases circular : EndsCircular ((builtin maxDepth).evaluateWithin sheet
      (builtin maxDepth).maxDepth.toNat (Text.upper id) formula ⟨graph, []⟩).1
  · -- A circular reference leaves a cycle, which the second search finds.
    obtain ⟨path, again⟩ := evaluateWithin_again_circular plain circular (cycle circular)
    rw [again]
    exact ⟨rfl, .inr ⟨circular, path, rfl⟩⟩
  · rw [evaluateWithin_again plain sheet _ _ formula graph circular]
    exact ⟨rfl, .inl rfl⟩

/-- A cycle that is found inside the cell at first is found from the cell itself when it is repeated. -/
example :
    let stale := DependencyGraph.empty.setDependencies "A1" ["C1"] (some "=C1")
    let first := (builtin 100).evaluate steps "C1" "=B1" ⟨stale, []⟩
    first.1 = .error (.formula (.circular ["B1", "A1", "C1", "B1"])) ∧
      ((builtin 100).evaluate steps "C1" "=B1" first.2).1 =
        .error (.formula (.circular ["C1", "B1", "A1", "C1"])) := by
  with_unfolding_all exact ⟨rfl, rfl⟩

end Evaluator
end Spreadsheet
