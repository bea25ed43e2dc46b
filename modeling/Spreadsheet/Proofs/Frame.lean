import Spreadsheet.Proofs.Cache
import Spreadsheet.Proofs.Calls
import Spreadsheet.Proofs.Evaluator.Records
import Spreadsheet.Proofs.Spelling
import Spreadsheet.Proofs.Workbook

/-!
What an edit leaves alone, however its cell is written and however it ends: the pending cells, the
formulas of the sheet, the records that are not those of a formula, and whatever belongs to cells that
do not lead to the edited one.
-/

namespace Spreadsheet

open Relation DependencyGraph Stateful

namespace Sheet

variable {sheet other : Sheet} {s : String} {p : Position}

/-- The formula of the cell that a text names, however it is written. -/
def formulasSpelled (sheet : Sheet) : Formulas := fun s =>
  -- A text that names no position has no formula.
  match Position.ofText? s with
  | .ok (some p) => formulaAt sheet p
  | _ => none

theorem formulasSpelled_of (read : Position.ofText? s = .ok (some p)) :
    formulasSpelled sheet s = formulaAt sheet p := by
  rw [formulasSpelled, read]

theorem formulasSpelled_congr (same : ∀ p, formulaAt sheet p = formulaAt other p) :
    -- A formula is looked up by the position that its text names.
    formulasSpelled sheet = formulasSpelled other := by
  funext s
  simp only [formulasSpelled, same]

/-- The formulas of cells by their ids are those at their positions. -/
theorem agrees_formulasSpelled (sheet : Sheet) (pending : List CellId) :
    Evaluator.Agrees (formulasSpelled sheet) sheet pending :=
  fun _ named _ => formulasSpelled_of (Position.ofText?_id named)

end Sheet

/-- A cell leads to another one by what is recorded or by formulas. -/
def LeadsTo (graph : DependencyGraph) (formulas : Formulas) : CellId → CellId → Prop :=
  ReflTransGen fun a b => graph.Reads a b ∨ formulas.Reads a b

namespace Session

/--
A session after some calls: no cell is pending any more, each record is the old one or what a formula
says, and the entries of cells that were not touched are kept or dropped.
-/
structure Frame (formulas : Formulas) (touched : CellId → Prop) (session after : Session) : Prop where
  evaluator : after.evaluator = session.evaluator
  pending : after.workspace.pending = session.workspace.pending
  records : Refreshes formulas session.graph after.graph
  entries : ∀ x, ¬ touched x →
    after.cache.entry? x = session.cache.entry? x ∨ after.cache.entry? x = none

namespace Frame

variable {formulas : Formulas} {touched : CellId → Prop} {session between after : Session}
  {sheet : Sheet} {id : String} {d x : CellId} {p : Position} {formula : String} {v : Value}

theorem refl (formulas : Formulas) (touched : CellId → Prop) (session : Session) :
    Frame formulas touched session session :=
  ⟨rfl, rfl, .refl _ _, fun _ _ => .inl rfl⟩

/-- Recording an entry of a cell that may be touched leaves the others. -/
theorem record (frame : Frame formulas touched session between) (touches : touched x) (now : Int)
    (v : Value) (dependencies : CellSet) :
    Frame formulas touched session
      { between with cache := between.cache.record now x v dependencies } := by
  -- A text that is not touched is not the one that is recorded.
  refine ⟨frame.evaluator, frame.pending, frame.records, fun y untouched => ?_⟩
  have apart : y ≠ x := fun same => untouched (same ▸ touches)
  simpa [apart] using frame.entries y untouched

/-- The evaluator's work on the formula of a cell leaves everything but records. -/
theorem worked (frame : Frame (Sheet.formulasSpelled sheet) touched session between)
    (plain : session.evaluator.registry.Plain) (read : Position.ofText? d = .ok (some p))
    (has : Sheet.formulaAt sheet p = some formula) :
    Frame (Sheet.formulasSpelled sheet) touched session (between.worked sheet d formula) := by
  -- The text is put in upper case twice, which names the same cell.
  have read' := Position.ofText?_upper (Position.ofText?_upper read)
  have own : Sheet.formulasSpelled sheet (Text.upper (Text.upper d)) = some formula :=
    (Sheet.formulasSpelled_of read').trans has
  have within := Evaluator.evaluate_within (w := between.workspace) (frame.evaluator ▸ plain) own
    (Sheet.agrees_formulasSpelled sheet _)
  exact ⟨frame.evaluator, within.1.trans frame.pending, frame.records.trans within.2, frame.entries⟩

/-- Forgetting what a cell without a formula reads leaves everything but its record. -/
theorem forgetDependencies (frame : Frame formulas touched session between)
    (without : formulas (Text.upper id) = none) :
    Frame formulas touched session (between.forgetDependencies id) :=
  -- Removing a record makes it current, since there is no formula to record.
  ⟨frame.evaluator, frame.pending, frame.records.trans (refreshes_remove _ without), frame.entries⟩

/-- A cascade drops entries and leaves the others. -/
theorem invalidateCascade (frame : Frame formulas touched session between) (id : String) :
    Frame formulas touched session (between.invalidateCascade id) := by
  refine ⟨frame.evaluator, frame.pending, frame.records, fun x untouched => ?_⟩
  show Cache.entry? (between.cache.invalidateCascade (Text.upper id)) x = _ ∨
    Cache.entry? (between.cache.invalidateCascade (Text.upper id)) x = _
  rw [Cache.entry?_invalidateCascade]
  -- An entry is dropped by the cascade, or it stays as it was.
  split
  · exact .inr rfl
  · exact frame.entries x untouched

end Frame

variable {touched : CellId → Prop} {session between : Session} {sheet : Sheet} {id : String}
  {d : CellId} {p : Position} {formula : String}

/-- Evaluating the formula of a cell touches its entry alone. -/
theorem evaluateOrError_frame (plain : session.evaluator.registry.Plain)
    (read : Position.ofText? d = .ok (some p)) (has : Sheet.formulaAt sheet p = some formula)
    (touches : touched (Text.upper d)) :
    Keeps (Frame (Sheet.formulasSpelled sheet) touched session)
      (evaluateOrError sheet d formula) :=
  -- The work changes the records, and recording changes one entry.
  evaluateOrError_keeps_of (fun _ frame => frame.worked plain read has)
    fun _ _ frame => frame.record touches _ _ _

/-- Computing a dependent anew touches its entry alone. -/
theorem renew_frame (plain : session.evaluator.registry.Plain) (touches : touched d)
    (touches' : touched (Text.upper d)) :
    Keeps (Frame (Sheet.formulasSpelled sheet) touched session) (renew sheet d) := by
  refine renew_keeps_of (fun p formula read has => evaluateOrError_frame plain read has touches')
    (fun p read without between frame => ?_) fun _ _ frame => frame.record touches _ _ _
  -- A text in upper case names the same cell, which has no formula.
  refine frame.forgetDependencies ?_
  rw [Sheet.formulasSpelled_of (Position.ofText?_upper read), without]

end Session

namespace Grid

/-- A grid in which values are shown: formulas stay, and cells elsewhere are the same. -/
structure Frame (shown : Position → Prop) (grid after : Grid) : Prop where
  formulas : ∀ q, (after.cellAt q).map Cell.formula = (grid.cellAt q).map Cell.formula
  cells : ∀ q, ¬ shown q → after.cellAt q = grid.cellAt q

namespace Frame

variable {shown : Position → Prop} {grid between after : Grid} {p : Position} {cell : Cell}

theorem refl (shown : Position → Prop) (grid : Grid) : Frame shown grid grid :=
  ⟨fun _ => rfl, fun _ _ => rfl⟩

theorem formulaAt (frame : Frame shown grid after) (q : Position) :
    Sheet.formulaAt after.sheet q = Sheet.formulaAt grid.sheet q := by
  -- The formula of a cell is all that counts.
  have same := frame.formulas q
  show (after.cellAt q).bind Cell.activeFormula? = (grid.cellAt q).bind Cell.activeFormula?
  cases later : after.cellAt q <;> cases earlier : grid.cellAt q <;>
    simp_all [Cell.activeFormula?]

/-- A cell that is put with the same formula where values may be shown leaves all else. -/
theorem put (frame : Frame shown grid between) (shows : shown p)
    (here : between.cellAt p = some cell) {later : Cell} (same : later.formula = cell.formula) :
    Frame shown grid (between.put p later) := by
  refine ⟨fun q => ?_, fun q elsewhere => ?_⟩
  · -- At the position itself the formula is that of the cell before.
    rw [← frame.formulas q, cellAt_put]
    split
    · rename_i there
      rw [there, here, Option.map_some, Option.map_some, same]
    · rfl
  · have apart : q ≠ p := fun there => elsewhere (there ▸ shows)
    rw [cellAt_put, if_neg apart, frame.cells q elsewhere]

end Frame
end Grid

namespace Workbook

/-- A workbook after some calls: its session and its grid are as they were but for some cells. -/
structure Frame (touched : CellId → Prop) (shown : Position → Prop) (start after : Workbook) :
    Prop where
  session : Session.Frame (Sheet.formulasSpelled start.grid.sheet) touched start.session
    after.session
  grid : Grid.Frame shown start.grid after.grid

variable {touched : CellId → Prop} {shown : Position → Prop} {start book : Workbook} {id : String}
  {p : Position} {cell : Cell} {v : Value} {changes : List (CellId × Value)}

theorem Frame.refl (touched : CellId → Prop) (shown : Position → Prop) (start : Workbook) :
    Frame touched shown start start :=
  ⟨.refl _ _ _, .refl _ _⟩

theorem Frame.formulasSpelled (frame : Frame touched shown start book) :
    Sheet.formulasSpelled book.grid.sheet = Sheet.formulasSpelled start.grid.sheet :=
  Sheet.formulasSpelled_congr frame.grid.formulaAt

/-- A cell leads to another one by what is recorded in a workbook or by its formulas. -/
def Leads (book : Workbook) : CellId → CellId → Prop :=
  LeadsTo book.session.graph (Sheet.formulasSpelled book.grid.sheet)

/-- The positions that an edit shows values at: those of cells that lead to the edited one. -/
def Shown (start : Workbook) (id : String) (q : Position) : Prop :=
  ∃ d, start.Leads d (Text.upper (Text.upper id)) ∧ Position.ofText? d = .ok (some q)

end Workbook
end Spreadsheet
