import Spreadsheet.Proofs.Evaluator.Follows

/-!
Evaluation inside pending cells: it gives what the formula means or reports a cycle of reads, it
refreshes the records, and a value shows that no chain of references goes on forever.
-/

namespace Spreadsheet

open Relation DependencyGraph Evaluation

variable {formulas : Formulas} {graph later : DependencyGraph} {evaluator : Evaluator}
  {sheet : Sheet} {id b : CellId} {formula : String} {pending : List CellId} {w : Workspace}
  {room : Nat}

/-- A cell reads another one by its formula, or by a record if it is not the cell with this id. -/
def Known (formulas : Formulas) (graph : DependencyGraph) (id a b : CellId) : Prop :=
  -- A record may be older than the formula; that of the cell itself is replaced before it is used.
  formulas.Reads a b ∨ a ≠ id ∧ graph.Reads a b

/-- A failure that reports a cycle to which a cell leads. -/
def Reported (r : CellId → CellId → Prop) (id : CellId) (e : FormulaError) : Prop :=
  -- The path lists the cycle from its first cell back to it.
  ∃ path, e = .circular path ∧ IsCycle r path ∧ ∃ x, path.head? = some x ∧ ReflTransGen r id x

/-- A cycle behind a cell is reported behind every cell that leads to it, and with more links. -/
theorem Reported.mono {r s : CellId → CellId → Prop} {a : CellId} {e : FormulaError}
    (reported : Reported r b e) (more : ∀ x y, r x y → s x y) (reached : ReflTransGen s a b) :
    Reported s a e := by
  obtain ⟨path, same, cycle, x, first, onwards⟩ := reported
  exact ⟨path, same, cycle.mono more, x, first,
    reached.trans (ReflTransGen.mono more _ _ onwards)⟩

/-- Behind a cell where a cycle is reported lies a cycle. -/
theorem Reported.cycleBehind {r : CellId → CellId → Prop} {e : FormulaError}
    (reported : Reported r id e) : CycleBehind r id := by
  obtain ⟨path, -, cycle, x, first, reached⟩ := reported
  -- A cycle begins and ends with the same cell, which is the one that is reached.
  obtain ⟨y, first', around⟩ := cycle.around
  cases first.symm.trans first'
  exact ⟨x, reached, around⟩

/-- Where nothing is recorded, only formulas tell what is read. -/
theorem Known.of_empty {a : CellId} (known : Known formulas .empty id a b) : formulas.Reads a b := by
  -- Nothing is recorded in the empty graph.
  refine known.resolve_right fun recorded => ?_
  simp [DependencyGraph.Reads] at recorded

/-- What is recorded once a cell's own record is current was known before. -/
theorem Known.of_reads (refreshes : Refreshes formulas graph later)
    (current : Current formulas later id) {a : CellId} (reads : later.Reads a b) :
    Known formulas graph id a b := by
  -- What is recorded later is old, or is what a formula refers to.
  rcases refreshes.reads reads with recorded | refers
  · by_cases same : a = id
    · subst same
      exact .inl (current.reads_iff.mp reads)
    · exact .inr ⟨same, recorded⟩
  · exact .inl refers

/-- What is known once a cell's own record is current was known before. -/
theorem Known.of_refreshes (refreshes : Refreshes formulas graph later)
    (current : Current formulas later id) {a x : CellId} (known : Known formulas later x a b) :
    Known formulas graph id a b :=
  known.elim .inl fun recorded => .of_reads refreshes current recorded.2

/-- The cells being evaluated inside one another: each is current and refers to the next one. -/
structure Stacked (formulas : Formulas) (graph : DependencyGraph) (id : CellId)
    (pending : List CellId) : Prop where
  current : ∀ x ∈ pending, Current formulas graph x
  linked : (id :: pending).IsChain fun b a => formulas.Reads a b

/-- What holds of an evaluation of a cell's formula, by its outcome and the workspace it leaves. -/
structure Evaluates (formulas : Formulas) (room : Nat) (id : CellId) (w : Workspace)
    (meaning : Except Failure Value) (result : Except Failure Value × Workspace) : Prop where
  pending : result.2.pending = w.pending
  refreshes : Refreshes formulas w.graph result.2.graph
  agrees : result.1 = meaning ∨
    ∃ e, result.1 = .error (.formula e) ∧ Reported (Known formulas w.graph id) id e
  terminates : ∀ v, result.1 = .ok v → Terminates formulas.Reads id
  /-- Unless a fault ends it, the record of the cell itself is current afterwards. -/
  current : 0 < room → (∀ f, result.1 ≠ .error (.fault f)) → Current formulas result.2.graph id

/-- What is kept while a cell's expression is evaluated. -/
def Within (formulas : Formulas) (graph : DependencyGraph) (pending : List CellId)
    (w : Workspace) : Prop :=
  -- The graph is the one in which the cell has just been recorded.
  w.pending = pending ∧ Refreshes formulas graph w.graph

namespace Stacked

/-- Every pending cell leads to the one that is evaluated. -/
theorem reaches (stacked : Stacked formulas graph id pending) {x : CellId}
    (member : x ∈ id :: pending) : ReflTransGen graph.Reads x id := by
  -- The induction is along the chain, each cell of which refers to the one before it.
  induction pending generalizing id with
  | nil =>
    cases List.mem_singleton.mp member
    exact .refl
  | cons s rest ih =>
    obtain ⟨current, linked⟩ := stacked
    rw [List.isChain_cons_cons] at linked
    -- The cell is the innermost one, or it is pending around it.
    rcases List.mem_cons.mp member with rfl | deeper
    · exact .refl
    · have outer : Stacked formulas graph s rest :=
        ⟨fun y inside => current y (by simp [inside]), linked.2⟩
      exact (ih outer deeper).tail ((current s (by simp)).reads_iff.mpr linked.1)

/-- Where no cycle is found, a cell refers to no cell that is being evaluated. -/
theorem not_pending (stacked : Stacked formulas graph id pending)
    (current : Current formulas graph id) (acyclic : graph.cycleFrom? id = none)
    (reads : formulas.Reads id b) : b ∉ id :: pending := by
  intro member
  -- The reference would close a cycle of records.
  have around : TransGen graph.Reads id id :=
    .head' (current.reads_iff.mpr reads) (stacked.reaches member)
  exact (terminates_of_cycleFrom?_eq_none acyclic).no_cycle ⟨id, .refl, around⟩

/-- A cell that is referred to is evaluated inside the cell that refers to it. -/
theorem push (stacked : Stacked formulas graph id pending) (current : Current formulas graph id)
    (reads : formulas.Reads id b) (refreshes : Refreshes formulas graph later) :
    Stacked formulas later b (id :: pending) := by
  refine ⟨fun x member => refreshes.current ?_, ?_⟩
  · -- The cell itself has become current, and the others were so before.
    rcases List.mem_cons.mp member with rfl | outer
    · exact current
    · exact stacked.current x outer
  · exact List.isChain_cons_cons.mpr ⟨reads, stacked.linked⟩

/-- Recording a cell that is not pending leaves the pending cells as they are. -/
theorem refresh (stacked : Stacked formulas graph id pending)
    (refreshes : Refreshes formulas graph later) : Stacked formulas later id pending :=
  ⟨fun x member => refreshes.current (stacked.current x member), stacked.linked⟩

end Stacked

namespace Evaluator

/-- The formulas that are evaluated are those of the sheet, except at cells that are pending. -/
def Agrees (formulas : Formulas) (sheet : Sheet) (pending : List CellId) : Prop :=
  -- The formula of a pending cell is given from outside.
  ∀ q : Position, q.Named → q.id ∉ pending → formulas q.id = Sheet.formulaAt sheet q

/-- What is read at a position is what is seen there, a formula being evaluated. -/
theorem readCell_eq_seen (sheet : Sheet) (evaluate : CellId → String → Evaluation Value)
    (p : Position) :
    readCell sheet evaluate p =
      match Sheet.seen sheet p with
      | .formula own => evaluate p.id own
      | .value v => pure v := by
  unfold readCell Sheet.seen
  cases sheet p with
  | none => rfl
  | some cell =>
    -- The cell holds a formula or nothing but its value.
    dsimp only
    cases cell.activeFormula? <;> rfl

/-- Reading a cell without a formula gives the value that is seen of it. -/
theorem readCell_of_none {p : Position} {evaluate : CellId → String → Evaluation Value}
    {value : CellId → String → Except Failure Value} (without : Sheet.formulaAt sheet p = none) :
    ∃ v, readCell sheet evaluate p = Pure.pure v ∧ valueSeen sheet value p = .ok v := by
  -- The value is that of the cell, or a blank where there is no cell.
  refine ⟨((sheet p).map Cell.value).getD .blank, ?_, ?_⟩
  · rw [readCell_eq_seen, Sheet.seen_of_none without]
  · rw [valueSeen, Sheet.seen_of_none without]

/-- Reading a cell with a formula evaluates the formula. -/
theorem readCell_of_some {p : Position} {evaluate : CellId → String → Evaluation Value}
    {value : CellId → String → Except Failure Value}
    (has : Sheet.formulaAt sheet p = some formula) :
    readCell sheet evaluate p = evaluate p.id formula ∧
      valueSeen sheet value p = value p.id formula := by
  -- Both sides look at what the cell shows.
  have sees := Sheet.seen_eq_formula.mpr has
  constructor
  · rw [readCell_eq_seen, sees]
  · rw [valueSeen, sees]

/-- Reading a cell follows what is seen of it if evaluating its formula does what it should. -/
theorem readCell_follows {p : Position} (named : p.Named)
    (stacked : Stacked formulas graph id pending) (current : Current formulas graph id)
    (acyclic : graph.cycleFrom? id = none) (agree : Agrees formulas sheet (id :: pending))
    (reads : formulas.Reads id p.id)
    (inner : ∀ w formula, formulas p.id = some formula → p.id ∉ w.pending →
      Stacked formulas w.graph p.id w.pending → Agrees formulas sheet (p.id :: w.pending) →
      Evaluates formulas room p.id w (evaluator.meaningWithin sheet room p.id formula)
        (evaluator.evaluateWithin sheet room p.id formula w)) :
    Follows (Within formulas graph (id :: pending)) (Reported (Known formulas graph id) id)
      (Terminates formulas.Reads p.id) (readCell sheet (evaluator.evaluateWithin sheet room) p)
      (valueSeen sheet (evaluator.meaningWithin sheet room) p) := by
  -- The cell that is read is not being evaluated, so its formula is that of the sheet.
  have outside : p.id ∉ id :: pending := stacked.not_pending current acyclic reads
  have same : formulas p.id = Sheet.formulaAt sheet p := agree p named outside
  cases has : Sheet.formulaAt sheet p with
  | none =>
    -- Without a formula the value is there already.
    obtain ⟨v, read, meant⟩ := readCell_of_none has
    rw [read, meant]
    exact (Follows.pure v).imp fun _ => Formulas.terminates_of_none (same.trans has)
  | some formula =>
    obtain ⟨evaluated, meant⟩ := readCell_of_some has
    rw [evaluated, meant]
    -- Whatever is kept lets the inner evaluation start, and is kept by it.
    have evaluates : ∀ w, Within formulas graph (id :: pending) w →
        Evaluates formulas room p.id w (evaluator.meaningWithin sheet room p.id formula)
          (evaluator.evaluateWithin sheet room p.id formula w) := by
      intro w within
      refine inner w formula (same.trans has) (within.1 ▸ outside) ?_ ?_
      · exact within.1 ▸ stacked.push current reads within.2
      · intro q named' free
        rw [within.1] at free
        exact agree q named' fun member => free (List.mem_cons_of_mem _ member)
    refine ⟨fun w within => ?_, fun w within => ?_, fun w v within done => ?_⟩
    · -- First what is kept: the pending cells and the refreshed records.
      exact ⟨(evaluates w within).pending.trans within.1,
        within.2.trans (evaluates w within).refreshes⟩
    · -- Then what the outcome says: a cycle that is reported inside is one for the reader as well.
      refine (evaluates w within).agrees.imp_right ?_
      rintro ⟨e, failed, reported⟩
      have known : ∀ x y, Known formulas w.graph p.id x y → Known formulas graph id x y :=
        fun x y => .of_refreshes within.2 (within.2.current current)
      exact ⟨e, failed, reported.mono known (.single (.inl reads))⟩
    · -- Last, what a value shows: chains of references from the cell end.
      exact (evaluates w within).terminates v done

/-- The value of an expression as a whole; `read` gives the values of cells. -/
def evaluateAlone (evaluator : Evaluator) (read : Position → Evaluation Value) (e : Expr) :
    Evaluation Value := do
  -- Lists belong to functions.
  let v ← e.evaluate evaluator.registry read
  if v.isList then refuse .listAlone
  return v

/-- The value of an expression as a whole follows its meaning. -/
theorem evaluateAlone_follows {Inv : Workspace → Prop} {Own : FormulaError → Prop}
    {Shown : Position → Prop} {read : Position → Evaluation Value}
    {value : Position → Except Failure Value} (plain : evaluator.registry.Plain) (e : Expr)
    (each : ∀ p ∈ e.positions, Follows Inv Own (Shown p) (read p) (value p)) :
    Follows Inv Own (∀ p ∈ e.positions, Shown p) (evaluator.evaluateAlone read e)
      (evaluator.valueAlone value e) := by
  -- A list is refused by both.
  -- The expression is evaluated by both, and its value is looked at.
  refine ((Expr.evaluate_follows plain e each).bind fun v => (?_ : Follows Inv Own True _ _)).imp
    And.left
  dsimp only
  split
  · exact .refuse _
  · exact .pure _

/-- A formula that is no expression is recorded as reading nothing, and fails. -/
theorem evaluateFormula_of_unread {read : Position → Evaluation Value} {e : FormulaError}
    (unread : Expr.ofFormula formula = .error (.formula e)) :
    evaluator.evaluateFormula read id formula w =
      (.error (.formula e), { w with graph := w.graph.setDependencies id [] (some formula) }) := by
  -- The text is read before anything else, and its failure is recorded and passed on.
  unfold evaluateFormula track
  rw [unread]
  rfl

/-- A formula with a faulty literal fails and leaves the record as it was. -/
theorem evaluateFormula_of_fault {read : Position → Evaluation Value} {f : Fault}
    (faulty : Expr.ofFormula formula = .error (.fault f)) :
    evaluator.evaluateFormula read id formula w = (.error (.fault f), w) := by
  unfold evaluateFormula track
  rw [faulty]
  rfl

/-- A formula that is read is recorded, and evaluated where no cycle is found behind its cell. -/
theorem evaluateFormula_of_ok {read : Position → Evaluation Value} {e : Expr}
    (parsed : Expr.ofFormula formula = .ok e) (recorded : Workspace)
    (after : recorded =
      { w with graph := w.graph.setDependencies id e.references (some formula) }) :
    evaluator.evaluateFormula read id formula w =
      match recorded.graph.cycleFrom? id with
      | some cycle => (.error (.formula (.circular cycle)), recorded)
      | none => evaluator.evaluateAlone read e recorded := by
  -- The record is made, and the search decides what comes next.
  subst after
  unfold evaluateFormula track
  rw [parsed]
  show (match (w.graph.setDependencies id e.references (some formula)).cycleFrom? id with
    | some cycle => refuse (.circular cycle)
    | none => evaluator.evaluateAlone read e : Evaluation Value) _ = _
  cases (w.graph.setDependencies id e.references (some formula)).cycleFrom? id <;> rfl

/-- A failure that a formula's own text explains is what the formula means. -/
theorem meaningWithin_of_error {failure : Failure}
    (unread : Expr.ofFormula formula = .error failure) :
    evaluator.meaningWithin sheet (room + 1) id formula = .error failure := by
  -- The meaning looks at the text first, too.
  rw [meaningWithin, unread]
  rfl

/-- A formula that is read means what its expression does. -/
theorem meaningWithin_of_ok {e : Expr} (parsed : Expr.ofFormula formula = .ok e) :
    evaluator.meaningWithin sheet (room + 1) id formula =
      evaluator.valueAlone (valueSeen sheet (evaluator.meaningWithin sheet room)) e := by
  rw [meaningWithin, parsed]
  rfl

/-- Where a cycle of records is found behind a cell, one of what was known before is reported. -/
theorem evaluates_of_cycle {recorded : Workspace} {meaning : Except Failure Value}
    {cycle : List CellId} (pending : recorded.pending = w.pending)
    (refreshes : Refreshes formulas w.graph recorded.graph)
    (current : Current formulas recorded.graph id)
    (found : recorded.graph.cycleFrom? id = some cycle) :
    Evaluates formulas room id w meaning (.error (.formula (.circular cycle)), recorded) := by
  -- The cycle leads along records of now, which were known before or are those of the formula.
  have known : ∀ x y, recorded.graph.Reads x y → Known formulas w.graph id x y :=
    fun x y => .of_reads refreshes current
  obtain ⟨closed, x, first, reached⟩ := cycleFrom?_eq_some found
  refine ⟨pending, refreshes, .inr ⟨_, rfl, cycle, rfl, closed.mono known, x, first, ?_⟩,
    by simp, fun _ _ => current⟩
  exact ReflTransGen.mono known _ _ reached

/-- An expression is evaluated on what has been recorded, if reading its cells gives their values. -/
theorem evaluates_of_follows {recorded : Workspace} {e : Expr} (plain : evaluator.registry.Plain)
    (has : formulas id = some formula) (parsed : Expr.ofFormula formula = .ok e)
    (inside : w.pending = id :: pending) (pushed : recorded.pending = id :: pending)
    (refreshes : Refreshes formulas w.graph recorded.graph)
    (current : Current formulas recorded.graph id)
    (each : ∀ p ∈ e.positions, Follows (Within formulas recorded.graph (id :: pending))
      (Reported (Known formulas recorded.graph id) id) (Terminates formulas.Reads p.id)
      (readCell sheet (evaluator.evaluateWithin sheet room) p)
      (valueSeen sheet (evaluator.meaningWithin sheet room) p)) :
    Evaluates formulas (room + 1) id w
      (evaluator.valueAlone (valueSeen sheet (evaluator.meaningWithin sheet room)) e)
      (evaluator.evaluateAlone (readCell sheet (evaluator.evaluateWithin sheet room)) e
        recorded) := by
  -- The expression follows its meaning, and what it keeps tells of the workspace afterwards.
  have follows := evaluateAlone_follows plain e each
  have start : Within formulas recorded.graph (id :: pending) recorded := ⟨pushed, .refl _ _⟩
  have kept := follows.keeps _ start
  refine ⟨kept.1.trans inside.symm, refreshes.trans kept.2, ?_, fun v done => ?_,
    fun _ _ => kept.2.current current⟩
  · refine (follows.agrees _ start).imp_right ?_
    rintro ⟨e', failed, reported⟩
    exact ⟨e', failed, reported.mono (fun x y => .of_refreshes refreshes current) .refl⟩
  · -- Every reference of the formula is one of a position that was read.
    refine ⟨id, fun y refers => ?_⟩
    obtain ⟨p, member, rfl⟩ := (Formulas.reads_iff has parsed).mp refers
    exact follows.good _ v start done p member

/-- Evaluating the formula of a cell that has just become pending does what it should. -/
theorem evaluateFormula_evaluates (plain : evaluator.registry.Plain)
    (has : formulas id = some formula) (inside : w.pending = id :: pending)
    (stacked : Stacked formulas w.graph id pending) (agree : Agrees formulas sheet (id :: pending))
    (inner : ∀ p : Position, ∀ w formula, formulas p.id = some formula → p.id ∉ w.pending →
      Stacked formulas w.graph p.id w.pending → Agrees formulas sheet (p.id :: w.pending) →
      Evaluates formulas room p.id w (evaluator.meaningWithin sheet room p.id formula)
        (evaluator.evaluateWithin sheet room p.id formula w)) :
    Evaluates formulas (room + 1) id w (evaluator.meaningWithin sheet (room + 1) id formula)
      (evaluator.evaluateFormula (readCell sheet (evaluator.evaluateWithin sheet room)) id formula
        w) := by
  have recorded := refreshes_setDependencies w.graph has
  have current : Current formulas
      (w.graph.setDependencies id (Expr.referencesIn formula) (some formula)) id :=
    current_setDependencies has
  -- The text of the formula decides: a fault, a text that is not read, or an expression.
  cases parsed : Expr.ofFormula formula with
  | error failure =>
    rw [meaningWithin_of_error parsed]
    cases failure with
    | fault f =>
      rw [evaluateFormula_of_fault parsed]
      exact ⟨rfl, .refl _ _, .inl rfl, by simp, by simp⟩
    | formula e =>
      rw [evaluateFormula_of_unread parsed]
      rw [Expr.referencesIn_of_error parsed] at recorded current
      exact ⟨rfl, recorded, .inl rfl, by simp, fun _ _ => current⟩
  | ok e =>
    -- The formula is recorded with the references of its expression.
    rw [Expr.referencesIn_of_ok parsed] at recorded current
    rw [meaningWithin_of_ok parsed, evaluateFormula_of_ok parsed _ rfl]
    dsimp only
    split
    · rename_i cycle found
      exact evaluates_of_cycle rfl recorded current found
    · rename_i acyclic
      -- Each position that is read is the one of a reference, and the cell there is not pending.
      refine evaluates_of_follows plain has parsed inside inside recorded current fun p member => ?_
      have named := (Expr.ofFormula_delivers formula).of_ok parsed p member
      have reads := (Formulas.reads_iff has parsed).mpr ⟨p, member, rfl⟩
      exact readCell_follows named (stacked.refresh recorded) current acyclic agree reads (inner p)

/-- With any room, a cell that is pending already is refused. -/
theorem evaluateWithin_of_pending {room : Nat} (waits : id ∈ w.pending) :
    evaluator.evaluateWithin sheet room id formula w =
      (.error (.formula (.circular (w.pathFrom id))), w) := by
  -- The guard against pending cells comes first, with or without room.
  cases room <;>
  · rw [evaluateWithin]
    show (if id ∈ w.pending then _ else _ : Evaluation Value) w = _
    rw [if_pos waits]
    rfl

/-- Without room, any other cell is refused as well. -/
theorem evaluateWithin_zero (fresh : id ∉ w.pending) :
    evaluator.evaluateWithin sheet 0 id formula w =
      (.error (.formula (.tooDeep evaluator.maxDepth id)), w) := by
  -- The guard lets the cell pass, and the room is used up.
  rw [evaluateWithin]
  show (if id ∈ w.pending then _ else _ : Evaluation Value) w = _
  rw [if_neg fresh]
  rfl

/-- Neither refusal changes the workspace. -/
theorem evaluateWithin_zero_workspace (sheet : Sheet) (id : CellId) (formula : String)
    (w : Workspace) : (evaluator.evaluateWithin sheet 0 id formula w).2 = w := by
  by_cases waits : id ∈ w.pending
  · rw [evaluateWithin_of_pending waits]
  · rw [evaluateWithin_zero waits]

/-- With some room, the formula of a cell that is not pending is evaluated while it is. -/
theorem evaluateWithin_succ (fresh : id ∉ w.pending) :
    evaluator.evaluateWithin sheet (room + 1) id formula w =
      inside id (evaluator.evaluateFormula (readCell sheet (evaluator.evaluateWithin sheet room))
        id formula) w := by
  -- The guard lets the cell pass, and some room is left.
  rw [evaluateWithin]
  show (if id ∈ w.pending then _ else _ : Evaluation Value) w = _
  rw [if_neg fresh]

/-- Evaluating the formula of a cell inside pending cells does what it should. -/
theorem evaluateWithin_evaluates (plain : evaluator.registry.Plain)
    (has : formulas id = some formula) (fresh : id ∉ w.pending)
    (stacked : Stacked formulas w.graph id w.pending)
    (agree : Agrees formulas sheet (id :: w.pending)) :
    Evaluates formulas room id w (evaluator.meaningWithin sheet room id formula)
      (evaluator.evaluateWithin sheet room id formula w) := by
  -- The induction is on the room; cells that are read are evaluated with less of it.
  induction room generalizing id formula w with
  | zero =>
    -- Without room the cell is refused for its depth, which the meaning says as well.
    rw [evaluateWithin_zero fresh]
    exact ⟨rfl, .refl _ _, .inl rfl, by simp, fun room => absurd room (lt_irrefl 0)⟩
  | succ room ih =>
    rw [evaluateWithin_succ fresh]
    have evaluates := evaluateFormula_evaluates plain has
      (w := { w with pending := id :: w.pending }) rfl stacked agree fun p w formula => ih
    refine ⟨?_, evaluates.refreshes, evaluates.agrees, evaluates.terminates, evaluates.current⟩
    -- The cell that was pending inside is taken away.
    exact congrArg List.tail evaluates.pending

/-- Where nothing is pending there is room for as many cells as the depth allows. -/
theorem evaluate_idle (idle : w.pending = []) (sheet : Sheet) (id formula : String) :
    evaluator.evaluate sheet id formula w =
      evaluator.evaluateWithin sheet evaluator.maxDepth.toNat (Text.upper id) formula w := by
  -- The room is what the depth allows besides the pending cells.
  show evaluator.evaluateWithin sheet (evaluator.maxDepth - w.pending.length).toNat
    (Text.upper id) formula w = _
  simp [idle]

/-- Evaluating the formula of a cell on a workspace where nothing is pending. -/
theorem evaluate_evaluates (evaluator : Evaluator) (plain : evaluator.registry.Plain) {p : Position}
    (on : p.OnSheet) {formula : String} (idle : w.pending = [])
    (has : formulas p.id = some formula) (agree : Agrees formulas sheet [p.id]) :
    Evaluates formulas evaluator.maxDepth.toNat p.id w
      (evaluator.meaningWithin sheet evaluator.maxDepth.toNat p.id formula)
      (evaluator.evaluate sheet p.id formula w) := by
  rw [evaluate_idle idle, Position.upper_id on]
  -- No cell is evaluated around this one.
  refine evaluateWithin_evaluates plain has (by simp [idle]) ⟨?_, ?_⟩ (by rwa [idle])
  · simp [idle]
  · simp [idle]

/-- Without any depth an evaluation leaves the workspace as it was. -/
theorem evaluate_shallow (shallow : evaluator.maxDepth ≤ 0) (sheet : Sheet) (id formula : String)
    (w : Workspace) : (evaluator.evaluate sheet id formula w).2 = w := by
  -- There is no room at all.
  have none : (evaluator.maxDepth - w.pending.length).toNat = 0 := by omega
  show (evaluator.evaluateWithin sheet (evaluator.maxDepth - w.pending.length).toNat
    (Text.upper id) formula w).2 = w
  rw [none, evaluateWithin_zero_workspace]

/-- A cell that is given a formula is the only one whose formula is not that of the sheet. -/
theorem agrees_formulasWith (sheet : Sheet) (c : CellId) (formula : String) :
    Agrees (Sheet.formulasWith sheet c formula) sheet [c] := by
  intro q named free
  -- At any other cell the formulas are those of the sheet.
  rw [Sheet.formulasWith, if_neg (by simpa using free), Sheet.formulas_id sheet named]

/-- The formulas of a sheet are its own. -/
theorem agrees_formulas (sheet : Sheet) (pending : List CellId) :
    Agrees (Sheet.formulas sheet) sheet pending :=
  fun _ named _ => Sheet.formulas_id sheet named

end Evaluator
end Spreadsheet
