import Spreadsheet.Proofs.Evaluator.Dependence
import Spreadsheet.Proofs.Grid
import Spreadsheet.Worksheet

/-!
A view of a worksheet and a grid that was filled with the same values: formulas see the same in both,
and no evaluation tells them apart.
-/

namespace Spreadsheet

variable {worksheet : Worksheet} {view : WorksheetView} {grid : Grid} {p q : Position} {v : Value}
  {cell : Cell}

/-- A value that a worksheet gives back as it was stored. -/
def Value.Scalar : Value → Prop
  -- Nothing at all can be stored as well.
  | blank | truth _ | number _ | text _ | moment _ => True
  | day _ | list _ | foreign _ => False

/-- A stored scalar other than a blank reads as the cell that it makes. -/
theorem Value.Scalar.toCell? (scalar : v.Scalar) (present : v ≠ .blank)
    (made : Cell.ofValue v = .ok cell) : (Stored.value v).toCell? = .ok (some cell) := by
  -- The cell is made in the same way on both sides; only a blank would be no cell.
  cases v with
  | blank => exact absurd rfl present
  | text s =>
    show (do return some (← Cell.ofValue (.text s)) : Except Failure (Option Cell)) = _
    rw [made]
    rfl
  | truth _ | number _ | moment _ =>
    obtain rfl := Except.ok.inj made
    rfl
  | day _ | list _ | foreign _ => exact scalar.elim

namespace Grid

/-- A grid holds the cell that a value makes; for a blank there may be no cell. -/
inductive Holds (grid : Grid) (p : Position) : Value → Prop
  | cell {v : Value} {cell : Cell} (made : Cell.ofValue v = .ok cell)
    (here : grid.cellAt p = some cell) : Holds grid p v
  | gap (absent : grid.cellAt p = none) : Holds grid p .blank

/-- Entering a value at one position leaves what is held at every other one. -/
theorem Holds.put (holds : grid.Holds q v) (other : q ≠ p) (cell : Cell) :
    (grid.put p cell).Holds q v := by
  -- Only what is asked for at the position itself can change.
  have same : (grid.put p cell).cellAt q = grid.cellAt q := by rw [cellAt_put, if_neg other]
  cases holds with
  | cell made here => exact .cell made (same.trans here)
  | gap absent => exact .gap (same.trans absent)

/-- Where a blank is held, formulas see a blank. -/
theorem Holds.seen_blank (holds : grid.Holds p .blank) :
    Sheet.seen grid.sheet p = .value .blank := by
  -- An empty cell shows a blank, and so does no cell.
  unfold Sheet.seen sheet
  cases holds with
  | cell made here =>
    obtain rfl := Except.ok.inj made
    rw [here]
    rfl
  | gap absent => rw [absent]

end Grid

namespace Worksheet

/-- A worksheet stores scalars only, and a grid holds the same ones. -/
structure Matches (worksheet : Worksheet) (grid : Grid) : Prop where
  stored : ∀ p stored, worksheet.cells.get? p = some stored →
    ∃ v : Value, stored = .value v ∧ v.Scalar ∧ grid.Holds p v
  absent : ∀ p, worksheet.cells.get? p = none → grid.Holds p .blank

namespace Matches

/-- Nothing is stored in an empty worksheet, and nothing is held by an empty grid. -/
theorem empty : Worksheet.empty.Matches Grid.empty :=
  ⟨fun p stored here => by simp [Worksheet.empty] at here, fun _ _ => .gap rfl⟩

/-- A scalar that is stored in a worksheet and entered in a grid at the same position keeps both equal. -/
theorem put (same : worksheet.Matches grid) (p : Position) (scalar : v.Scalar)
    (made : Cell.ofValue v = .ok cell) :
    Worksheet.Matches ⟨worksheet.cells.put p (.value v)⟩ (grid.put p cell) := by
  -- At the position itself both sides have the new value, elsewhere both have what they had.
  refine ⟨fun q stored here => ?_, fun q absent => ?_⟩
  · by_cases there : q = p
    · subst there
      rw [Table.get?_put, if_pos rfl] at here
      exact ⟨v, (Option.some.inj here).symm, scalar, .cell made (by simp)⟩
    · rw [Table.get?_put, if_neg there] at here
      obtain ⟨u, value, kept, holds⟩ := same.stored q stored here
      exact ⟨u, value, kept, holds.put there cell⟩
  · by_cases there : q = p
    · simp [Table.get?_put, there] at absent
    · rw [Table.get?_put, if_neg there] at absent
      exact (same.absent q absent).put there cell

end Matches

end Worksheet

namespace WorksheetView

/-- No cell is stored beyond the extent of a view. -/
def Covers (view : WorksheetView) : Prop :=
  ∀ p stored, view.worksheet.cells.get? p = some stored →
    p.column < view.width ∧ p.row < view.height

/-- A running maximum is at least what it started from, and at least each of the sizes. -/
theorem le_foldl_max (size : Position → Int) (ps : List Position) (start : Int) :
    start ≤ ps.foldl (fun most p => max most (size p)) start ∧
      ∀ p ∈ ps, size p ≤ ps.foldl (fun most p => max most (size p)) start := by
  -- By induction on the positions, for any start: the first of them raises it.
  induction ps generalizing start with
  | nil => simp
  | cons q rest ih =>
    obtain ⟨first, others⟩ := ih (max start (size q))
    rw [List.foldl_cons]
    refine ⟨(le_max_left _ _).trans first, List.forall_mem_cons.mpr ⟨?_, others⟩⟩
    exact (le_max_right _ _).trans first

/-- A view of a worksheet as it is covers the worksheet. -/
theorem covers_of (worksheet : Worksheet) : (WorksheetView.of worksheet).Covers := by
  -- The width and the height are running maxima over all positions that are stored.
  intro p stored here
  have member : p ∈ worksheet.cells.keys := Table.mem_keys_of_get? here
  have columns := (le_foldl_max (fun p => p.column + 1) worksheet.cells.keys 1).2 p member
  have rows := (le_foldl_max (fun p => p.row + 1) worksheet.cells.keys 1).2 p member
  exact ⟨Int.add_one_le_iff.mp columns, Int.add_one_le_iff.mp rows⟩

/-- From the first cell on, a view that covers its worksheet reads whatever is stored. -/
theorem cellAt_of_stored {stored : Stored} (covers : view.Covers) (on : p.OnSheet)
    (here : view.worksheet.cells.get? p = some stored) : view.cellAt p = stored.toCell? := by
  -- A position of the sheet is neither before the first cell nor beyond the extent.
  obtain ⟨column, row⟩ := covers p stored here
  have := on.column
  have := on.row
  rw [cellAt, if_neg (by omega), if_neg (by omega), here]

/-- From the first cell on, a view finds no cell where nothing is stored. -/
theorem cellAt_of_absent (on : p.OnSheet) (absent : view.worksheet.cells.get? p = none) :
    view.cellAt p = .ok none := by
  -- Only the upper bounds are left to decide, and nothing is stored on either side of them.
  have := on.column
  have := on.row
  rw [cellAt, if_neg (c := p.row < 0 ∨ p.column < 0) (by omega), absent]
  split <;> rfl

/-- A view reads the cell that a grid holds, or no cell where the grid holds a blank. -/
theorem cellAt_of_matches (covers : view.Covers) (same : view.worksheet.Matches grid)
    (on : p.OnSheet) :
    (∃ cell, view.cellAt p = .ok (some cell) ∧ grid.cellAt p = some cell) ∨
      view.cellAt p = .ok none ∧ grid.Holds p .blank := by
  -- Whether something is stored decides, and then whether it is a blank.
  cases here : view.worksheet.cells.get? p with
  | none => exact .inr ⟨cellAt_of_absent on here, same.absent p here⟩
  | some stored =>
    obtain ⟨v, rfl, scalar, holds⟩ := same.stored p stored here
    rw [cellAt_of_stored covers on here]
    cases holds with
    | gap absent => exact .inr ⟨rfl, .gap absent⟩
    | @cell _ cell made held =>
      by_cases nothing : v = .blank
      · subst nothing
        exact .inr ⟨rfl, .cell made held⟩
      · exact .inl ⟨cell, scalar.toCell? nothing made, held⟩

/-- Formulas see the same in a view and in a grid that holds the same values. -/
theorem seen_of_matches (covers : view.Covers) (same : view.worksheet.Matches grid)
    (on : p.OnSheet) : Sheet.seen view.sheet p = Sheet.seen grid.sheet p := by
  -- Where there is a cell both sides have the same one, elsewhere both show a blank.
  rcases cellAt_of_matches covers same on with ⟨cell, found, held⟩ | ⟨found, holds⟩
  · have cells : view.sheet p = grid.sheet p := by
      rw [sheet, found]
      exact held.symm
    rw [Sheet.seen, Sheet.seen, cells]
  · rw [holds.seen_blank, Sheet.seen, sheet, found]

/-- Reading a cell from a view does not fail. -/
theorem cellAt_eq_sheet (covers : view.Covers) (same : view.worksheet.Matches grid)
    (on : p.OnSheet) : view.cellAt p = .ok (view.sheet p) := by
  rcases cellAt_of_matches covers same on with ⟨cell, found, _⟩ | ⟨found, _⟩ <;> rw [sheet, found]

end WorksheetView

/--
A view of a worksheet that stores scalars only, none of them beyond the extent of the view, and a grid
that holds the same values cannot be told apart: every cell that a formula can name is read without a
failure, and every evaluation comes to the same outcome and leaves the same records.
-/
theorem Evaluator.evaluate_view (evaluator : Evaluator) (covers : view.Covers)
    (same : view.worksheet.Matches grid) (id formula : String) (w : Workspace) :
    (∀ p : Position, p.OnSheet → view.cellAt p = .ok (view.sheet p)) ∧
    evaluator.evaluate view.sheet id formula w = evaluator.evaluate grid.sheet id formula w := by
  refine ⟨fun p on => WorksheetView.cellAt_eq_sheet covers same on, ?_⟩
  -- An evaluation depends on nothing but what formulas see.
  show evaluator.evaluateWithin view.sheet _ (Text.upper id) formula w =
    evaluator.evaluateWithin grid.sheet _ (Text.upper id) formula w
  rw [evaluateWithin_congr _ fun p behind =>
    WorksheetView.seen_of_matches covers same behind.named.onSheet]

/-- A worksheet with a number, a formula beside it, and a blank. -/
def tally : Worksheet :=
  -- The formula reads beyond the extent as well.
  ⟨((Worksheet.empty.cells.put ⟨0, 0⟩ (.value (.whole 2))).put ⟨1, 0⟩
    (.value (.text "=SUM(A1:A9)"))).put ⟨2, 0⟩ (.value .blank)⟩

/-- A grid that was filled alike holds the blank as a cell, and no formula tells the two apart. -/
theorem Evaluator.evaluate_view_tally : ∃ grid, (WorksheetView.of tally).Covers ∧
    (WorksheetView.of tally).worksheet.Matches grid ∧ grid.cellAt ⟨2, 0⟩ = some ⟨.blank, none, .text⟩ ∧
    (builtin 100).evaluate (WorksheetView.of tally).sheet "F1" "=B1+C1" .empty =
      (builtin 100).evaluate grid.sheet "F1" "=B1+C1" .empty := by
  -- The worksheet and the grid are filled step by step with the same three values.
  have number : (Value.whole 2).Scalar := trivial
  have formula : (Value.text "=SUM(A1:A9)").Scalar := trivial
  have blank : Value.blank.Scalar := trivial
  have same := ((Worksheet.Matches.empty.put ⟨0, 0⟩ number rfl).put ⟨1, 0⟩ formula rfl).put ⟨2, 0⟩
    blank rfl
  have covers := WorksheetView.covers_of tally
  exact ⟨_, covers, same, rfl, (evaluate_view (builtin 100) covers same "F1" "=B1+C1" .empty).2⟩

end Spreadsheet
