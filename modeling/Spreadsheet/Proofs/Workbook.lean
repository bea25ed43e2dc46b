import Spreadsheet.Proofs.Grid
import Spreadsheet.Proofs.Session

/-! What an edit of a workbook goes through, and what each part does to the grid and the session. -/

namespace Spreadsheet

open Relation DependencyGraph Stateful

namespace Workbook

variable {maxDepth : Int} {book after : Workbook} {p : Position} {input : Input} {cell : Cell}
  {v : Value} {changes : List (CellId × Value)}

/-- Shows computed values in the cells with these ids. -/
def presentAll (changes : List (CellId × Value)) : Edit Unit :=
  -- In the order in which they were computed.
  changes.forM fun (dependent, value) => do
    present (← (Position.ofText dependent : Except Failure _)) value

/-- Computes everything anew that depends on a cell and shows it; gives all changes. -/
def spread (id : CellId) (v : Value) : Edit (List (CellId × Value)) := do
  -- The value of the cell itself comes first.
  let changes ← inSession fun sheet => Session.recalculateDependents sheet id
  presentAll changes
  return (id, v) :: changes

/-- A step of the session that succeeds does so in the session of the workbook. -/
theorem inSession_ok {α : Type} {step : Sheet → Step α} {a : α}
    (done : inSession step book = (.ok a, after)) :
    ∃ session, step book.grid.sheet book.session = (.ok a, session) ∧
      after = { book with session := session } := by
  unfold inSession at done
  -- A run of the session is a result with a session, and only the session is put back.
  generalize step book.grid.sheet book.session = run at done ⊢
  obtain ⟨outcome, session⟩ := run
  cases done
  exact ⟨session, rfl, rfl⟩

/-- Reading the id of a position with a name gives that position. -/
theorem ofText_run {α : Type} (named : p.Named) (next : Position → Edit α) (book : Workbook) :
    ((liftM (Position.ofText p.id) : Edit Position) >>= next) book = next p book := by
  -- The text is read without a failure, and the rest goes on from the position.
  rw [bind_run, Position.ofText_eq_ok.mpr (Position.ofText?_id named)]
  rfl

/-- Changing a cell leaves the session alone, and all other cells. -/
theorem change_run (p : Position) (f : Cell → Cell) (book : Workbook) :
    change p f book = (.ok (), { book with
      grid := match book.grid.cellAt p with
        | some cell => book.grid.put p (f cell)
        | none => book.grid }) := by
  show ((.ok () : Except Failure Unit), _) = _
  -- Where there is no cell, the grid stays as it is.
  dsimp only
  cases book.grid.cellAt p <;> rfl

/-- A grid in which a cell has a new value and a new type. -/
theorem shows_put {grid : Grid} (named : p.Named) (here : grid.cellAt p = some cell) (v : Value)
    (type : CellType) :
    Grid.Shows [(p.id, v)] grid
      ((grid.put p { cell with value := v }).put p { cell with value := v, type := type }) := by
  refine ⟨fun q none => ?_, fun q other there => ?_⟩
  · -- A position without a cell is another one.
    have apart : q ≠ p := fun same => nomatch (same ▸ here).symm.trans none
    simp [apart, none]
  · by_cases same : q = p
    · subst same
      cases here.symm.trans there
      exact ⟨{ cell with value := v, type := type }, by simp, rfl, .inr ⟨named, by simp⟩⟩
    · refine ⟨other, by simp [same, there], rfl, .inl ⟨rfl, fun named' => ?_⟩⟩
      -- Positions with names are told apart by their ids.
      simpa using fun id => same (Position.id_inj named'.onSheet named.onSheet id)

/-- Where there is no cell a value is not shown. -/
theorem shows_absent {grid : Grid} (named : p.Named) (absent : grid.cellAt p = none) (v : Value) :
    Grid.Shows [(p.id, v)] grid grid := by
  refine ⟨fun q none => none, fun q other there => ⟨other, there, rfl, .inl ⟨rfl, fun named' => ?_⟩⟩⟩
  -- A cell that is there stands elsewhere.
  rw [List.map_singleton, List.mem_singleton]
  intro id
  cases Position.id_inj named'.onSheet named.onSheet id
  exact nomatch absent.symm.trans there

/-- A value that is shown stands in its cell afterwards, and nothing else changes. -/
theorem present_ok {u : Unit} (named : p.Named) (done : present p v book = (.ok u, after)) :
    after.session = book.session ∧ Grid.Shows [(p.id, v)] book.grid after.grid := by
  -- The value is put first, then its type is found and put.
  obtain ⟨_, first, changed, done⟩ := bind_eq_ok.mp done
  obtain ⟨type, second, typed, done⟩ := bind_eq_ok.mp done
  rw [change_run] at changed done
  -- Finding the type of the value does not touch the workbook.
  have unmoved : second = first := by
    cases kind : CellType.ofValue v with
    | ok t => rw [kind] at typed; cases typed; rfl
    | error e => rw [kind] at typed; exact nomatch typed
  cases here : book.grid.cellAt p with
  | none =>
    rw [here] at changed
    cases changed
    subst unmoved
    rw [here] at done
    cases done
    exact ⟨rfl, shows_absent named here v⟩
  | some cell =>
    rw [here] at changed
    cases changed
    subst unmoved
    simp only [Grid.cellAt_put, if_true] at done
    cases done
    exact ⟨rfl, shows_put named here v type⟩

/-- Values that are shown stand in their cells afterwards, and nothing else changes. -/
theorem presentAll_ok {u : Unit} (done : presentAll changes book = (.ok u, after))
    (named : ∀ entry ∈ changes, ∃ q : Position, q.Named ∧ q.id = entry.1) :
    after.session = book.session ∧ Grid.Shows changes book.grid after.grid := by
  -- The induction is along the values, each shown in the grid that the ones before it leave.
  induction changes generalizing book with
  | nil =>
    cases done
    exact ⟨rfl, .refl _⟩
  | cons entry rest ih =>
    obtain ⟨dependent, value⟩ := entry
    obtain ⟨q, named', same⟩ := named _ List.mem_cons_self
    dsimp only at same
    subst same
    obtain ⟨_, between, first, others⟩ := bind_eq_ok.mp done
    change (_ >>= fun r => present r value : Edit Unit) book = _ at first
    rw [ofText_run named'] at first
    obtain ⟨session, shows⟩ := present_ok named' first
    obtain ⟨session', shows'⟩ := ih others fun entry member => named entry (by simp [member])
    exact ⟨session'.trans session, shows.cons shows'⟩

/-- A cell that is put has its formula at its position. -/
theorem formulaAt_put (grid : Grid) (p : Position) (cell : Cell) :
    Sheet.formulaAt (grid.put p cell).sheet p = cell.activeFormula? := by
  show ((grid.put p cell).cellAt p).bind _ = _
  simp

/-- Something that is entered makes a cell, which is put at the position that the text names. -/
theorem enter_eq_ok {grid after : Grid} {s : String} (done : grid.enter s input = .ok (cell, after)) :
    ∃ p, Position.ofText? s = .ok (some p) ∧ input.toCell = .ok cell ∧ after = grid.put p cell := by
  -- The reference is read first, then the cell is made.
  obtain ⟨p, read, done⟩ := bind_eq_ok_iff.mp done
  obtain ⟨made, makes, done⟩ := bind_eq_ok_iff.mp done
  cases done
  exact ⟨p, Position.ofText_eq_ok.mp read, makes, rfl⟩

/-- Something that is entered changes the grid and nothing else. -/
theorem enter_run (id : String) (input : Input) (book : Workbook) :
    enter id input book =
      match book.grid.enter id input with
      | .ok (cell, grid) => (.ok cell, { book with grid := grid })
      | .error e => (.error e, book) := by
  unfold enter
  refine (bind_run get _ book).trans ?_
  show ((liftM (book.grid.enter id input) : Edit (Cell × Grid)) >>= _) book = _
  cases book.grid.enter id input <;> rfl

/-- Something that is entered makes a cell, which stands at its position afterwards. -/
theorem enter_ok (on : p.OnSheet) (done : enter p.id input book = (.ok cell, after)) :
    p.Named ∧ input.toCell = .ok cell ∧ after = { book with grid := book.grid.put p cell } := by
  rw [enter_run] at done
  -- What is entered makes a cell, or the edit ends here.
  cases entered : book.grid.enter p.id input with
  | error e =>
    rw [entered] at done
    cases done
  | ok result =>
    obtain ⟨made, grid⟩ := result
    rw [entered] at done
    cases done
    obtain ⟨q, read, makes, rfl⟩ := enter_eq_ok entered
    obtain ⟨named, rfl⟩ := Position.of_ofText?_id on read
    exact ⟨named, makes, rfl⟩

/-- A workbook in which a cell was put, and nothing was computed for it. -/
def entered (book : Workbook) (p : Position) (cell : Cell) : Workbook :=
  -- The session is not told.
  { book with grid := book.grid.put p cell }

/-- A formula that is settled is evaluated, and its value stands in the cell. -/
theorem settle_formula_ok {formula : String} (named : p.Named)
    (has : cell.activeFormula? = some formula) (done : settle p.id cell book = (.ok v, after)) :
    Session.evaluateOrError book.grid.sheet p.id formula book.session = (.ok v, after.session) ∧
      Grid.Shows [(p.id, v)] book.grid after.grid := by
  unfold settle at done
  rw [has] at done
  -- The evaluation happens in the session alone, and showing the value in the grid alone.
  obtain ⟨value, between, evaluated, done⟩ := bind_eq_ok.mp done
  obtain ⟨session, evaluates, rfl⟩ := inSession_ok evaluated
  change (_ >>= fun q => present q value >>= fun _ => pure value : Edit Value) _ = _ at done
  rw [ofText_run named] at done
  obtain ⟨_, shown, shows, done⟩ := bind_eq_ok.mp done
  cases done
  obtain ⟨same, shows⟩ := present_ok named shows
  exact ⟨by rw [same]; exact evaluates, shows⟩

/-- A plain value that is settled makes the session forget the cell. -/
theorem settle_value_ok {id : CellId} (without : cell.activeFormula? = none)
    (done : settle id cell book = (.ok v, after)) :
    v = cell.value ∧ after = { book with session := book.session.forget id } := by
  unfold settle at done
  rw [without] at done
  cases done
  exact ⟨rfl, rfl⟩

/-- What an edit goes through when it succeeds. -/
structure Edited (p : Position) (input : Input) (book : Workbook)
    (changes : List (CellId × Value)) (after : Workbook) : Prop where
  named : p.Named
  steps : ∃ cell v between rest session, input.toCell = .ok cell ∧
    settle p.id cell { book with grid := book.grid.put p cell } = (.ok v, between) ∧
    Session.recalculateDependents between.grid.sheet p.id between.session = (.ok rest, session) ∧
    presentAll rest { between with session := session } = (.ok (), after) ∧
    changes = (p.id, v) :: rest

/-- An edit that succeeds has entered the input, settled the cell and shown what depends on it. -/
theorem edit_ok (on : p.OnSheet) (done : edit p.id input book = (.ok changes, after)) :
    Edited p input book changes after := by
  unfold edit at done
  rw [Position.upper_id on] at done
  -- Each of the four steps starts from the workbook that the one before leaves.
  obtain ⟨cell, entered, enters, done⟩ := bind_eq_ok.mp done
  obtain ⟨v, between, settled, done⟩ := bind_eq_ok.mp done
  obtain ⟨rest, recalculated, recalculates, done⟩ := bind_eq_ok.mp done
  obtain ⟨_, shown, shows, done⟩ := bind_eq_ok.mp done
  cases done
  obtain ⟨named, makes, rfl⟩ := enter_ok on enters
  obtain ⟨session, computed, rfl⟩ := inSession_ok recalculates
  exact ⟨named, cell, v, between, rest, session, makes, settled, computed, shows, rfl⟩

section Keeping

variable {Inv : Session → Prop}

/-- A step of the session keeps what it keeps of the session of a workbook. -/
theorem inSession_keeps {α : Type} {step : Sheet → Step α} (each : ∀ sheet, Keeps Inv (step sheet)) :
    Keeps (fun book => Inv book.session) (inSession step) :=
  fun book => each book.grid.sheet book.session

/-- Changing a cell leaves the session alone. -/
theorem change_keeps (p : Position) (f : Cell → Cell) :
    Keeps (fun book => Inv book.session) (change p f) := by
  intro book inv
  -- The run is known, and the session in it is the one from before.
  rw [change_run]
  exact inv

/-- Showing a value leaves the session alone. -/
theorem present_keeps (p : Position) (v : Value) :
    Keeps (fun book => Inv book.session) (present p v) :=
  (change_keeps p _).bind fun _ => (Keeps.lift _).bind fun _ => change_keeps p _

/-- Entering something leaves the session alone. -/
theorem enter_keeps (id : String) (input : Input) :
    Keeps (fun book => Inv book.session) (enter id input) := by
  intro book inv
  rw [enter_run]
  cases book.grid.enter id input <;> exact inv

/-- Settling a cell keeps what evaluating its formula and forgetting it keep of the session. -/
theorem settle_keeps {id : CellId}
    (evaluates : ∀ sheet formula, Keeps Inv (Session.evaluateOrError sheet id formula))
    (forgets : ∀ session, Inv session → Inv (session.forget id)) (cell : Cell) :
    Keeps (fun book => Inv book.session) (settle id cell) := by
  unfold settle
  -- A plain value is forgotten, a formula is evaluated; showing the value leaves the session alone.
  cases cell.activeFormula? with
  | none => exact (Keeps.change fun book => forgets book.session).bind fun _ => .pure _
  | some formula =>
    refine (inSession_keeps fun sheet => evaluates sheet formula).bind fun v => ?_
    exact (Keeps.lift _).bind fun q => (present_keeps q v).bind fun _ => .pure _

/-- An edit keeps what evaluating, forgetting and recalculating keep of the session. -/
theorem edit_keeps_of (Inv : Session → Prop) {id : String}
    (evaluates : ∀ sheet formula, Keeps Inv (Session.evaluateOrError sheet (Text.upper id) formula))
    (forgets : ∀ session, Inv session → Inv (session.forget (Text.upper id)))
    (recalculates : ∀ sheet, Keeps Inv (Session.recalculateDependents sheet (Text.upper id)))
    (input : Input) : Keeps (fun book => Inv book.session) (edit id input) := by
  -- Only settling the cell and computing what depends on it touch the session.
  refine (enter_keeps _ _).bind fun cell => (settle_keeps evaluates forgets cell).bind fun v => ?_
  refine (inSession_keeps recalculates).bind fun rest => ?_
  -- Showing the values goes on from cell to cell in the grid alone.
  refine (Keeps.forM rest fun entry _ => ?_).bind fun _ => .pure _
  exact (Keeps.lift _).bind fun q => present_keeps q _

end Keeping

/-- The session of a workbook is ready for the next step. -/
def Ready (maxDepth : Int) (book : Workbook) : Prop := book.session.Ready maxDepth

/-- Forgetting a cell keeps a session ready. -/
theorem forget_ready {session : Session} (ready : session.Ready maxDepth) (id : String) :
    (session.forget id).Ready maxDepth :=
  (ready.forgetDependencies id).congr rfl rfl

/-- An edit keeps a workbook ready, however it ends. -/
theorem edit_keeps (on : p.OnSheet) (input : Input) : Keeps (Ready maxDepth) (edit p.id input) := by
  refine edit_keeps_of (Session.Ready maxDepth) ?_ (fun _ ready => forget_ready ready _) ?_ input
  · -- The reference of a position on a sheet is in upper case already.
    rw [Position.upper_id on]
    exact fun sheet formula => Session.evaluateOrError_keeps sheet on formula
  · rw [Position.upper_id on]
    exact fun sheet => Session.recalculateDependents_keeps sheet on

end Workbook
end Spreadsheet
