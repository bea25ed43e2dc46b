import Spreadsheet.Proofs.Evaluator.Meaning

/-!
Grids whose cells show new values: their formulas stay, and where a cell without a formula shows what
it held before, formulas see no difference.
-/

namespace Spreadsheet

namespace Grid

variable {grid later last : Grid} {p q : Position} {cell : Cell} {v : Value}
  {changes rest : List (CellId × Value)}

/-- Putting a cell changes the cell at that position and at no other. -/
@[simp] theorem cellAt_put (grid : Grid) (p q : Position) (cell : Cell) :
    (grid.put p cell).cellAt q = if q = p then some cell else grid.cellAt q :=
  Table.get?_put _ _ _ _

/-- A cell of a grid has its formula at its position. -/
theorem formulaAt_of_cellAt {formula : String} (here : grid.cellAt p = some cell)
    (active : cell.activeFormula? = some formula) :
    Sheet.formulaAt grid.sheet p = some formula :=
  Option.bind_eq_some_iff.mpr ⟨cell, here, active⟩

/-- A cell shows another one's formula, and its value unless the changes give it a new one. -/
structure ShowsIn (changes : List (CellId × Value)) (p : Position) (cell shown : Cell) : Prop where
  formula : shown.formula = cell.formula
  value : shown.value = cell.value ∧ (p.Named → p.id ∉ changes.map Prod.fst) ∨
    p.Named ∧ (p.id, shown.value) ∈ changes

/-- A grid has the cells of another one, with the values that some changes give them. -/
structure Shows (changes : List (CellId × Value)) (grid later : Grid) : Prop where
  absent : ∀ p, grid.cellAt p = none → later.cellAt p = none
  shown : ∀ p cell, grid.cellAt p = some cell →
    ∃ other, later.cellAt p = some other ∧ ShowsIn changes p cell other

namespace Shows

/-- Without changes a grid shows what it did. -/
theorem refl (grid : Grid) : Shows [] grid grid :=
  ⟨fun _ none => none, fun _ cell here => ⟨cell, here, rfl, .inl ⟨rfl, by simp⟩⟩⟩

/-- A cell that is put shows the value that it holds. -/
theorem put (grid : Grid) (named : p.Named) (cell : Cell) :
    Shows [(p.id, cell.value)] (grid.put p cell) (grid.put p cell) := by
  refine ⟨fun q absent => absent, fun q other there => ⟨other, there, rfl, ?_⟩⟩
  by_cases same : q = p
  · subst same
    simp only [cellAt_put, if_true, Option.some.injEq] at there
    subst there
    exact .inr ⟨named, List.mem_singleton.mpr rfl⟩
  · -- Positions with names are told apart by their ids.
    refine .inl ⟨rfl, fun named' member => same ?_⟩
    exact Position.id_inj named'.onSheet named.onSheet (by simpa using member)

/-- One change after the other shows both. -/
theorem cons {entry : CellId × Value} (first : Shows [entry] grid later)
    (others : Shows rest later last) : Shows (entry :: rest) grid last := by
  refine ⟨fun p none => others.absent p (first.absent p none), fun p cell here => ?_⟩
  -- The cell that shows the change in between is the one that the other changes start from.
  obtain ⟨between, here', formula, value⟩ := first.shown p cell here
  obtain ⟨other, there, formula', value'⟩ := others.shown p between here'
  refine ⟨other, there, formula'.trans formula, ?_⟩
  -- The last change of a cell is the one that it shows.
  rcases value' with ⟨same', unchanged'⟩ | ⟨named, member⟩
  · rcases value with ⟨same, unchanged⟩ | ⟨named, member⟩
    · refine .inl ⟨same'.trans same, fun named => ?_⟩
      simpa [not_or] using ⟨by simpa using unchanged named, by simpa using unchanged' named⟩
    · rw [List.mem_singleton] at member
      exact .inr ⟨named, by rw [same', ← member]; exact List.mem_cons_self⟩
  · exact .inr ⟨named, List.mem_cons_of_mem _ member⟩

/-- Formulas stay where they are. -/
theorem formulaAt (shows : Shows changes grid later) (p : Position) :
    Sheet.formulaAt later.sheet p = Sheet.formulaAt grid.sheet p := by
  rw [Sheet.formulaAt, Sheet.formulaAt]
  show (later.cellAt p).bind _ = (grid.cellAt p).bind _
  -- No cell appears or disappears, and a cell that is shown keeps its formula.
  cases here : grid.cellAt p with
  | none => rw [shows.absent p here]
  | some cell =>
    obtain ⟨other, there, formula, -⟩ := shows.shown p cell here
    rw [there, Option.bind_some, Option.bind_some, Cell.activeFormula?, formula]
    rfl

/-- Where cells without a formula show what they held, formulas see the same. -/
theorem seen (shows : Shows changes grid later)
    (plain : ∀ p v, p.Named → (p.id, v) ∈ changes → Sheet.formulaAt grid.sheet p = none →
      v = ((grid.cellAt p).map Cell.value).getD .blank) (p : Position) :
    Sheet.seen later.sheet p = Sheet.seen grid.sheet p := by
  -- Where there is a formula, that is what is seen.
  cases has : Sheet.formulaAt grid.sheet p with
  | some formula =>
    rw [Sheet.seen_eq_formula.mpr has, Sheet.seen_eq_formula.mpr ((shows.formulaAt p).trans has)]
  | none =>
    rw [Sheet.seen_of_none has, Sheet.seen_of_none ((shows.formulaAt p).trans has)]
    show Seen.value (((later.cellAt p).map Cell.value).getD .blank) =
      Seen.value (((grid.cellAt p).map Cell.value).getD .blank)
    cases here : grid.cellAt p with
    | none => rw [shows.absent p here]
    | some cell =>
      obtain ⟨other, there, -, value⟩ := shows.shown p cell here
      rw [there]
      -- A change of the cell gives it the value that it held.
      rcases value with ⟨same, -⟩ | ⟨named, member⟩
      · simp [same]
      · have held := plain p _ named member has
        rw [here] at held
        simp [held]

/-- A cell that no change is for shows its formula and its value as before. -/
theorem unchanged (shows : Shows changes grid later) (outside : p.id ∉ changes.map Prod.fst)
    (here : grid.cellAt p = some cell) :
    ∃ other, later.cellAt p = some other ∧ other.activeFormula? = cell.activeFormula? ∧
      other.value = cell.value := by
  obtain ⟨other, there, formula, value⟩ := shows.shown p cell here
  refine ⟨other, there, by rw [Cell.activeFormula?, Cell.activeFormula?, formula], ?_⟩
  -- A change of the cell would be listed under its id.
  rcases value with ⟨same, -⟩ | ⟨-, member⟩
  · exact same
  · exact absurd (List.mem_map_of_mem member) outside

/-- A cell that exactly one change is for shows its formula as before, with the changed value. -/
theorem changed (shows : Shows changes grid later) (named : p.Named)
    (distinct : (changes.map Prod.fst).Nodup) (member : (p.id, v) ∈ changes)
    (here : grid.cellAt p = some cell) :
    ∃ other, later.cellAt p = some other ∧ other.activeFormula? = cell.activeFormula? ∧
      other.value = v := by
  obtain ⟨other, there, formula, value⟩ := shows.shown p cell here
  refine ⟨other, there, by rw [Cell.activeFormula?, Cell.activeFormula?, formula], ?_⟩
  -- The change is for the cell, so its value is a new one.
  rcases value with ⟨-, none⟩ | ⟨-, shown⟩
  · exact absurd (List.mem_map_of_mem member) (none named)
  · -- Both changes have the same id, so they are the same.
    have same := List.inj_on_of_nodup_map distinct shown member rfl
    exact (Prod.mk.inj same).2

end Shows

end Grid
end Spreadsheet
