import Spreadsheet.Cache
import Spreadsheet.Evaluator

/-!
Editing sessions: an evaluator with its dependencies and a cache of what it computed, and the sheet
that is edited. After an edit everything that depends on the cell is computed anew.
-/

namespace Spreadsheet

/-- An evaluator at work, with a cache and a clock. -/
structure Session where
  evaluator : Evaluator
  workspace : Workspace
  cache : Cache
  /-- The age beyond which cached values are dropped. -/
  maxAge : Int
  /-- The time in milliseconds. -/
  now : Int

/-- A step of a session, which keeps its changes even if it fails. -/
abbrev Step (α : Type) := ExceptT Failure (StateM Session) α

namespace Session

/-- A session that has done nothing yet. -/
def start (evaluator : Evaluator) (maxAge : Int) : Session := ⟨evaluator, .empty, .empty, maxAge, 0⟩

/-- The dependencies that a session has recorded. -/
def graph (session : Session) : DependencyGraph := session.workspace.graph

/-- The cells that read a cell. -/
def dependents (session : Session) (id : String) : CellSet :=
  session.graph.dependentsOf (Text.upper id)

/-- The cells that read a cell, directly or not. -/
def allDependents (session : Session) (id : String) : CellSet :=
  session.graph.transitiveDependents [Text.upper id]

/-- The cells that a cell reads. -/
def dependencies (session : Session) (id : String) : CellSet :=
  session.graph.dependenciesOf (Text.upper id)

/-- The cached value of a cell. -/
def cached? (session : Session) (id : String) : Option Value := session.cache.value? (Text.upper id)

/-- Sets the clock. -/
def tick (session : Session) (now : Int) : Session := { session with now := now }

/-- Changes the dependency graph. -/
def changeGraph (session : Session) (change : DependencyGraph → DependencyGraph) : Session :=
  { session with workspace := { session.workspace with graph := change session.graph } }

/-- Forgets what a cell reads and its formula. -/
def forgetDependencies (session : Session) (id : String) : Session :=
  session.changeGraph (·.remove (Text.upper id))

/-- Forgets all recorded dependencies. -/
def clearDependencies (session : Session) : Session := session.changeGraph fun _ => .empty

/-- Drops the cached value of a cell. -/
def invalidate (session : Session) (id : String) : Session :=
  { session with cache := session.cache.drop (Text.upper id) }

/-- A cell and every cell whose cached value was computed from it. -/
def cascade (session : Session) (id : String) : List CellId := session.cache.cascade (Text.upper id)

/-- Drops the cached values of a cell and of every cell computed from it. -/
def invalidateCascade (session : Session) (id : String) : Session :=
  { session with cache := session.cache.invalidateCascade (Text.upper id) }

/-- Forgets a cell's formula, as when a plain value replaces it. -/
def forget (session : Session) (id : String) : Session :=
  -- Values computed from the cell are dropped with its own.
  (session.forgetDependencies id).invalidateCascade id

/-- Registers a function. -/
def register (session : Session) (name : String) (f : SheetFunction) : Session :=
  { session with
    evaluator :=
      { session.evaluator with registry := session.evaluator.registry.register name f } }

/-- The age beyond which values are dropped: the given one, or that of the session. -/
def ageLimit (session : Session) (maxAge : Option Int) : Int := maxAge.getD session.maxAge

/-- The cells whose cached values are older than an age. -/
def expired (session : Session) (maxAge : Option Int) : List CellId :=
  session.cache.expired session.now (session.ageLimit maxAge)

/-- Drops the cached values that are older than an age. -/
def evict (session : Session) (maxAge : Option Int) : Session :=
  { session with cache := session.cache.evict session.now (session.ageLimit maxAge) }

/-- Forgets all dependencies and all cached values. -/
def reset (session : Session) : Session := { session.clearDependencies with cache := .empty }

/-- Records a value in the cache under the dependencies that the graph has for the cell. -/
def record (session : Session) (id : CellId) (value : Value) : Session :=
  { session with
    cache := session.cache.record session.now id value (session.graph.dependenciesOf id) }

/-- Records a value in the cache under the dependencies that the cache has for the cell. -/
def refresh (session : Session) (id : CellId) (value : Value) : Session :=
  { session with cache := session.cache.refresh session.now id value }

/-- An evaluation as a step of a session. -/
def ofEvaluation {α : Type} (work : Evaluation α) : Step α := fun session =>
  -- Only the workspace changes.
  let (outcome, workspace) := work session.workspace
  (outcome, { session with workspace := workspace })

/-- Evaluates a formula and caches its value. -/
def evaluate (sheet : Sheet) (id : String) (formula : String) : Step Value := do
  -- A failure is not cached.
  let id := Text.upper id
  let v ← ofEvaluation ((← get).evaluator.evaluate sheet id formula)
  modify (·.record id v)
  return v

/-- Evaluates a formula and caches its value, or the text that stands for its failure. -/
def evaluateOrError (sheet : Sheet) (id : String) (formula : String) : Step Value :=
  -- Faults that do not belong to formulas stay failures.
  tryCatch (evaluate sheet id formula) fun
    | .formula e => do
      let v := Value.text e.shown
      modify (·.record (Text.upper id) v)
      return v
    | failure => throw failure

/-- The value of a dependent cell: of its formula, or the value it holds if it has none any more. -/
def revalue (sheet : Sheet) (id : CellId) : Step Value := do
  -- A dependent that is no cell of a sheet cannot be looked up.
  match ← (Position.ofText? id : Except Failure _) with
  | none => throw (.fault .mismatch)
  | some p =>
    match (sheet p).bind Cell.activeFormula? with
    | some formula => evaluateOrError sheet id formula
    | none =>
      modify (·.forgetDependencies id)
      return ((sheet p).map Cell.value).getD .blank

/-- Computes everything anew that depends on a cell, the cell itself left out. -/
def recalculateDependents (sheet : Sheet) (id : String) : Step (List (CellId × Value)) := do
  -- The order follows the dependencies, then the dependencies of the cached values.
  let session ← get
  let affected := (session.allDependents id).erase (Text.upper id)
  let ordered := session.graph.dependencyOrder affected.toList
  (session.cache.order ordered).mapM fun dependent => do
    let v ← revalue sheet dependent
    modify (·.refresh dependent v)
    return (dependent, v)

end Session

/-- A session together with the sheet that is edited in it. -/
structure Workbook where
  session : Session
  grid : Grid

/-- A step on a workbook, which keeps its changes even if it fails. -/
abbrev Edit (α : Type) := ExceptT Failure (StateM Workbook) α

namespace Workbook

/-- A step of the session as a step on the workbook; the grid is what formulas read. -/
def inSession {α : Type} (step : Sheet → Step α) : Edit α := fun book =>
  -- Only the session changes.
  let (outcome, session) := step book.grid.sheet book.session
  (outcome, { book with session := session })

/-- Changes the cell at a position, if there is one. -/
def change (p : Position) (f : Cell → Cell) : Edit Unit :=
  -- The session is not told.
  modify fun book =>
    match book.grid.cellAt p with
    | some cell => { book with grid := book.grid.put p (f cell) }
    | none => book

/-- Shows a computed value in the cell at a position, first the value and then its type. -/
def present (p : Position) (v : Value) : Edit Unit := do
  -- A value without a type is shown all the same, and then is a failure.
  change p fun cell => { cell with value := v }
  let type ← (CellType.ofValue v : Except Failure CellType)
  change p fun cell => { cell with type := type }

/-- Enters something in a cell; gives the cell. -/
def enter (id : String) (input : Input) : Edit Cell := do
  -- A failure changes nothing.
  let book ← get
  let (cell, grid) ← (book.grid.enter id input : Except Failure _)
  set { book with grid := grid }
  return cell

/-- The value of a cell after an edit: a formula is evaluated and shown, a plain value forgets one. -/
def settle (id : CellId) (cell : Cell) : Edit Value := do
  -- The cell is where its id says.
  match cell.activeFormula? with
  | some formula => do
    let v ← inSession fun sheet => Session.evaluateOrError sheet id formula
    present (← (Position.ofText id : Except Failure _)) v
    return v
  | none => do
    modify fun book => { book with session := book.session.forget id }
    return cell.value

/-- Enters something in a cell and computes everything anew that depends on it; gives the changes. -/
def edit (id : String) (input : Input) : Edit (List (CellId × Value)) := do
  -- The edited cell comes first, then its dependents in the order of their computation.
  let id := Text.upper id
  let cell ← enter id input
  let v ← settle id cell
  let changes ← inSession fun sheet => Session.recalculateDependents sheet id
  changes.forM fun (dependent, value) => do
    present (← (Position.ofText dependent : Except Failure _)) value
  return (id, v) :: changes

end Workbook
end Spreadsheet
