import Spreadsheet.Proofs.Evaluator.Answered
import Spreadsheet.Proofs.Position.Id

/-!
The cells of an area: the ids that are recorded for it are those of the cells that are read for it,
each cell of the rectangle once, column by column, whichever two opposite corners are given.
-/

namespace Spreadsheet

/-- A position comes before another one: its column does, or its row within the same column. -/
def Position.Before (p q : Position) : Prop :=
  p.column < q.column ∨ p.column = q.column ∧ p.row < q.row

namespace Except

variable {ε α β : Type}

/-- Going through lists one after the other is going through all that is in them. -/
theorem mapM_flatMap (f : β → Except ε α) {γ : Type} (g : γ → List β) (xs : List γ) :
    (xs.flatMap g).mapM f = (xs.mapM fun x => (g x).mapM f).map List.flatten := by
  -- By induction on the outer list: the first inner list is gone through, then all the others.
  induction xs with
  | nil => rfl
  | cons x rest ih =>
    rw [List.flatMap_cons, List.mapM_append, List.mapM_cons, ih]
    cases (g x).mapM f with
    | error e => rfl
    | ok first => cases rest.mapM fun x => (g x).mapM f <;> rfl

/-- Steps that all succeed give all results. -/
theorem mapM_eq_ok {f : β → Except ε α} {g : β → α} {xs : List β}
    (each : ∀ x ∈ xs, f x = .ok (g x)) : xs.mapM f = .ok (xs.map g) := by
  -- By induction on the list, since the first result comes before those of the rest.
  induction xs with
  | nil => rfl
  | cons x rest ih =>
    rw [List.mapM_cons, each x List.mem_cons_self,
      ih fun y member => each y (List.mem_cons_of_mem _ member)]
    rfl

/-- Steps some of which fail, all in one way, fail in that way. -/
theorem mapM_eq_error {f : β → Except ε α} {e : ε} {g : β → α} {xs : List β}
    (each : ∀ x ∈ xs, f x = .ok (g x) ∨ f x = .error e) {y : β} (member : y ∈ xs)
    (failed : f y = .error e) : xs.mapM f = .error e := by
  -- By induction on the list: the first step fails already, or a later one does.
  induction xs with
  | nil => cases member
  | cons x rest ih =>
    rw [List.mapM_cons]
    rcases each x List.mem_cons_self with done | stopped
    · -- The first step succeeds, so it is not the one that fails.
      have behind : y ∈ rest := by
        rcases List.mem_cons.mp member with rfl | behind
        · rw [done] at failed
          cases failed
        · exact behind
      rw [done, ih (fun z member => each z (List.mem_cons_of_mem _ member)) behind]
      rfl
    · rw [stopped]
      rfl

end Except

namespace Area

variable {area : Area} {p : Position}

/-- The area with the columns of its corners exchanged. -/
def swapColumns (area : Area) : Area :=
  ⟨{ area.start with column := area.finish.column },
    { area.finish with column := area.start.column }⟩

/-- The area with the rows of its corners exchanged. -/
def swapRows (area : Area) : Area :=
  ⟨{ area.start with row := area.finish.row }, { area.finish with row := area.start.row }⟩

/-- A position lies in the rectangle: neither coordinate is outside of those of the corners. -/
def Covers (area : Area) (p : Position) : Prop :=
  (min area.start.column area.finish.column ≤ p.column ∧
      p.column ≤ max area.start.column area.finish.column) ∧
    min area.start.row area.finish.row ≤ p.row ∧ p.row ≤ max area.start.row area.finish.row

/-- Both corners are positions that a sheet has. -/
structure OnSheet (area : Area) : Prop where
  start : area.start.OnSheet
  finish : area.finish.OnSheet

/-- The whole numbers between two others are the same in either order. -/
theorem between_comm (a b : Int) : between a b = between b a := by
  -- The smaller of two numbers and the distance between them do not depend on their order.
  rw [between, between, min_comm, show (b - a).natAbs = (a - b).natAbs by omega]

/-- Whole numbers between two others go upwards. -/
theorem pairwise_between (a b : Int) : (between a b).Pairwise (· < ·) := by
  -- The numbers count up from the smaller one.
  rw [between, List.pairwise_map]
  exact List.pairwise_lt_range.imp fun less => by omega

/-- The positions of an area are those of its rectangle. -/
theorem mem_positions_iff : p ∈ area.positions ↔ area.Covers p := by
  rw [mem_positions, mem_between, mem_between, Covers]

/-- The positions of an area go downwards within each column, and the columns to the right. -/
theorem pairwise_positions (area : Area) : area.positions.Pairwise Position.Before := by
  -- Columns are compared first, so rows matter only within one column.
  rw [positions, List.pairwise_flatMap]
  constructor
  · intro column _
    rw [List.pairwise_map]
    exact (pairwise_between _ _).imp fun less => .inr ⟨rfl, less⟩
  · -- Between two columns the rows are of no account.
    refine (pairwise_between _ _).imp fun less p inLeft q inRight => .inl ?_
    obtain ⟨row, _, rfl⟩ := List.mem_map.mp inLeft
    obtain ⟨row', _, rfl⟩ := List.mem_map.mp inRight
    exact less

/-- An area has the same positions with the columns of its corners exchanged. -/
theorem positions_swapColumns (area : Area) : area.swapColumns.positions = area.positions := by
  -- Only the range of columns is another one, and it is the same either way.
  simp only [positions, swapColumns, between_comm area.finish.column]

/-- An area has the same positions with the rows of its corners exchanged. -/
theorem positions_swapRows (area : Area) : area.swapRows.positions = area.positions := by
  -- Only the range of rows is another one, and it is the same either way.
  simp only [positions, swapRows, between_comm area.finish.row]

/-- The ids of the positions one by one are those made column by column. -/
theorem mapM_checkedId (area : Area) :
    area.positions.mapM Position.checkedId = area.checkedIds := by
  -- Both go through the same columns, and through the same rows within each of them.
  rw [positions, Except.mapM_flatMap, checkedIds]
  simp only [List.mapM_map]
  rfl

/-- Only positions of a sheet lie between two of them. -/
theorem OnSheet.of_mem (on : area.OnSheet) (member : p ∈ area.positions) : p.OnSheet := by
  -- Neither coordinate is less than the smaller one of the corners, and those are not negative.
  obtain ⟨inColumns, inRows⟩ := mem_positions_iff.mp member
  have := on.start.column
  have := on.finish.column
  have := on.start.row
  have := on.finish.row
  exact ⟨by omega, by omega⟩

/-- The corners belong to the area. -/
theorem corners_mem (area : Area) :
    area.start ∈ area.positions ∧ area.finish ∈ area.positions := by
  -- A corner has the coordinates that bound the rectangle.
  rw [mem_positions_iff, mem_positions_iff, Covers, Covers]
  omega

/-- Where both rows can be written, so can all ids of the area. -/
theorem OnSheet.checkedIds_of_readable (on : area.OnSheet)
    (readable : area.start.Readable ∧ area.finish.Readable) : area.checkedIds = .ok area.ids := by
  -- No row of the area is beyond the rows of the corners, so each of them can be written.
  rw [← mapM_checkedId, ids_eq_map]
  refine Except.mapM_eq_ok fun p member => Position.checkedId_of_named ?_
  exact Position.Named.of_mem_positions ⟨on.start, readable.1⟩ ⟨on.finish, readable.2⟩ member

/-- Where one of the rows cannot be written, neither can the ids of the area. -/
theorem OnSheet.checkedIds_of_not_readable (on : area.OnSheet)
    (long : ¬(area.start.Readable ∧ area.finish.Readable)) :
    area.checkedIds = .error .tooLongToWrite := by
  -- Every id either is written, or fails for the one reason there is.
  have each : ∀ p ∈ area.positions,
      p.checkedId = .ok p.id ∨ p.checkedId = .error .tooLongToWrite := by
    intro p member
    by_cases readable : p.Readable
    · exact .inl (Position.checkedId_of_named ⟨on.of_mem member, readable⟩)
    · exact .inr (Position.checkedId_of_not_readable (on.of_mem member) readable)
  -- One of the corners is too long to be written, and both of them are among the cells.
  obtain ⟨startMem, finishMem⟩ := area.corners_mem
  rw [← mapM_checkedId]
  rcases not_and_or.mp long with start | finish
  · exact Except.mapM_eq_error each startMem (Position.checkedId_of_not_readable on.start start)
  · exact Except.mapM_eq_error each finishMem (Position.checkedId_of_not_readable on.finish finish)

/-- Ids that are those of the cells of a rectangle, each of them once, column by column. -/
structure Lists (area : Area) (ids : List CellId) : Prop where
  nodup : ids.Nodup
  mem_iff : ∀ p : Position, p.OnSheet → (p.id ∈ ids ↔ area.Covers p)
  ordered : ∃ ps : List Position, (∀ p ∈ ps, p.OnSheet) ∧ ids = ps.map Position.id ∧
    ps.Pairwise Position.Before

/-- The ids of an area are those of the cells of its rectangle. -/
theorem OnSheet.lists (on : area.OnSheet) : area.Lists area.ids := by
  rw [ids_eq_map]
  -- A position does not come before itself.
  have distinct : area.positions.Nodup := by
    refine (pairwise_positions area).imp fun before same => ?_
    subst same
    rcases before with less | ⟨-, less⟩ <;> exact lt_irrefl _ less
  -- Distinct positions of a sheet have distinct ids, so nothing is lost when they are named.
  refine ⟨?_, fun p here => ?_, _, fun p => on.of_mem, rfl, pairwise_positions area⟩
  · exact distinct.map_on fun p member q member' =>
      Position.id_inj (on.of_mem member) (on.of_mem member')
  · rw [← mem_positions_iff, List.mem_map]
    constructor
    · rintro ⟨q, member, same⟩
      exact Position.id_inj (on.of_mem member) here same ▸ member
    · exact fun member => ⟨p, member, rfl⟩

variable {registry : Registry} {read : Position → Evaluation Value} {w after inner : Workspace}

/-- Evaluating an area asks only for cells whose ids are recorded for it. -/
theorem mem_references_of_asks (asks : (Expr.area area).Asks registry read w p inner) :
    p.id ∈ (Expr.area area).references := by
  -- What is asked for is a position of the area, and its id is the one that is recorded.
  rw [Expr.references, ids_eq_map]
  cases asks with
  | area asks => exact List.mem_map_of_mem asks.mem

/-- Evaluating an area with success asks for all cells whose ids are recorded for it. -/
theorem exists_asks_of_mem {v : Value} {id : CellId}
    (done : (Expr.area area).evaluate registry read w = (.ok v, after))
    (member : id ∈ (Expr.area area).references) :
    ∃ p inner, p.id = id ∧ (Expr.area area).Asks registry read w p inner := by
  rw [Expr.references, ids_eq_map] at member
  -- The id is that of a position of the area, which is read when its turn comes.
  obtain ⟨p, inside, rfl⟩ := List.mem_map.mp member
  simp only [Expr.evaluate] at done
  obtain ⟨vs, u, each, -⟩ := Stateful.bind_eq_ok.mp done
  obtain ⟨inner, asks⟩ := AsksEach.of_mem each inside
  exact ⟨p, inner, rfl, .area asks⟩

/--
Both ways of listing the cells of an area agree, whichever opposite corners are given. What is
recorded for the area lists its rectangle, each cell once and column by column, and it is what
evaluating the area asks for: nothing else, and all of it unless a cell fails.
-/
theorem checkedIds_exact (on : area.OnSheet) (registry : Registry)
    (read : Position → Evaluation Value) (w : Workspace) :
    area.positions.mapM Position.checkedId = area.checkedIds ∧
      (area.swapColumns.checkedIds = area.checkedIds ∧
        area.swapRows.checkedIds = area.checkedIds) ∧
      (area.start.Readable ∧ area.finish.Readable →
        area.checkedIds = .ok (Expr.area area).references) ∧
      (¬(area.start.Readable ∧ area.finish.Readable) →
        area.checkedIds = .error .tooLongToWrite) ∧
      area.Lists (Expr.area area).references ∧
      (∀ p inner, (Expr.area area).Asks registry read w p inner →
        p.id ∈ (Expr.area area).references) ∧
      ∀ v after, (Expr.area area).evaluate registry read w = (.ok v, after) →
        ∀ id ∈ (Expr.area area).references,
          ∃ p inner, p.id = id ∧ (Expr.area area).Asks registry read w p inner := by
  -- Exchanged corners give the same positions, and the positions decide the ids.
  have columns : area.swapColumns.checkedIds = area.checkedIds := by
    rw [← mapM_checkedId, positions_swapColumns, mapM_checkedId]
  have rows : area.swapRows.checkedIds = area.checkedIds := by
    rw [← mapM_checkedId, positions_swapRows, mapM_checkedId]
  refine ⟨mapM_checkedId area, ⟨columns, rows⟩, on.checkedIds_of_readable,
    on.checkedIds_of_not_readable, on.lists, fun p inner => mem_references_of_asks, ?_⟩
  exact fun v after done id => exists_asks_of_mem done

/-- An area that is given from its last cell to its first one, when all of its cells are blank. -/
theorem checkedIds_exact_reversed :
    OnSheet ⟨⟨1, 1⟩, ⟨0, 0⟩⟩ ∧ checkedIds ⟨⟨1, 1⟩, ⟨0, 0⟩⟩ = .ok ["A1", "A2", "B1", "B2"] ∧
      Lists ⟨⟨1, 1⟩, ⟨0, 0⟩⟩ ["A1", "A2", "B1", "B2"] ∧
      ∃ p inner, p.id = "A2" ∧
        (Expr.area ⟨⟨1, 1⟩, ⟨0, 0⟩⟩).Asks .builtin (fun _ => pure .blank) .empty p inner := by
  -- The bound of rows that can be written is far above the few rows here.
  have small : ∀ row : Nat, row < 10 → row + 1 < 10 ^ digitLimit := fun row less =>
    (Nat.succ_lt_succ less).trans (by decide +kernel)
  have on : OnSheet ⟨⟨1, 1⟩, ⟨0, 0⟩⟩ :=
    ⟨⟨by decide, by decide⟩, ⟨by decide, by decide⟩⟩
  have listed : (Expr.area ⟨⟨1, 1⟩, ⟨0, 0⟩⟩).references = ["A1", "A2", "B1", "B2"] := by
    decide +kernel
  -- The law gives the ids, what they list and what is asked for all at once.
  obtain ⟨-, -, written, -, lists, -, asks⟩ :=
    checkedIds_exact on .builtin (fun _ => pure .blank) .empty
  rw [listed] at written lists asks
  exact ⟨on, written ⟨small 1 (by decide), small 0 (by decide)⟩, lists,
    asks _ _ rfl "A2" (by decide)⟩

end Area
end Spreadsheet
