import Spreadsheet.Proofs.Expr.Parser
import Spreadsheet.Proofs.Graph.Links
import Spreadsheet.Sheet

/-!
The formulas of cells by their ids, the reads that they make up, and how far the records of a
dependency graph agree with them.
-/

namespace Spreadsheet

/-- The ids that a formula refers to, none if it is not read. -/
def Expr.referencesIn (formula : String) : List CellId :=
  -- A formula that is no expression reads nothing.
  match Expr.ofFormula formula with
  | .ok e => e.references
  | .error _ => []

/-- A formula that is read refers to what its expression does. -/
theorem Expr.referencesIn_of_ok {formula : String} {e : Expr} (parsed : ofFormula formula = .ok e) :
    referencesIn formula = e.references := by
  rw [referencesIn, parsed]

/-- A formula that is not read refers to nothing. -/
theorem Expr.referencesIn_of_error {formula : String} {failure : Failure}
    (unread : ofFormula formula = .error failure) : referencesIn formula = [] := by
  rw [referencesIn, unread]

/-- A formula refers to each position that its expression reads. -/
theorem Expr.mem_referencesIn {formula : String} {e : Expr} {p : Position}
    (parsed : ofFormula formula = .ok e) (member : p ∈ e.positions) :
    p.id ∈ referencesIn formula := by
  rw [referencesIn_of_ok parsed, references_eq_map]
  exact List.mem_map_of_mem member

/-- What a formula refers to has a name. -/
theorem Expr.exists_of_mem_referencesIn {formula : String} {id : CellId}
    (member : id ∈ referencesIn formula) : ∃ p : Position, p.Named ∧ p.id = id := by
  -- Only a formula that is read refers to anything.
  unfold referencesIn at member
  split at member
  · rename_i e read
    rw [references_eq_map, List.mem_map] at member
    obtain ⟨p, inside, rfl⟩ := member
    exact ⟨p, (ofFormula_delivers formula).of_ok read p inside, rfl⟩
  · simp at member

/-- The formula of each cell that has one. -/
abbrev Formulas := CellId → Option String

namespace Formulas

variable {formulas other : Formulas} {a b x : CellId}

/-- The ids that the formula of a cell refers to. -/
def references (formulas : Formulas) (id : CellId) : List CellId :=
  -- A cell without a formula refers to nothing.
  match formulas id with
  | some formula => Expr.referencesIn formula
  | none => []

/-- A cell's formula refers to another cell. -/
def Reads (formulas : Formulas) (a b : CellId) : Prop := b ∈ formulas.references a

/-- A cell with a formula refers to what its formula does. -/
theorem references_of_some {formula : String} (has : formulas x = some formula) :
    formulas.references x = Expr.referencesIn formula := by
  rw [references, has]

/-- A cell without a formula refers to nothing. -/
theorem references_of_none (without : formulas x = none) : formulas.references x = [] := by
  rw [references, without]

/-- Where two cells have the same formula, they refer to the same cells. -/
theorem references_congr (same : formulas x = other x) :
    formulas.references x = other.references x := by
  rw [references, references, same]

/-- A cell refers to the positions that its formula reads. -/
theorem reads_iff {formula : String} {e : Expr} (has : formulas a = some formula)
    (parsed : Expr.ofFormula formula = .ok e) :
    formulas.Reads a b ↔ ∃ p ∈ e.positions, p.id = b := by
  rw [Reads, references_of_some has, Expr.referencesIn_of_ok parsed]
  -- The references of an expression are the ids of its positions.
  simp only [Expr.references_eq_map, List.mem_map]

/-- Only a cell with a formula refers to another one. -/
theorem Reads.has_formula (reads : formulas.Reads a b) : ∃ formula, formulas a = some formula := by
  rw [Reads] at reads
  -- Without a formula nothing is referred to.
  cases has : formulas a with
  | some formula => exact ⟨formula, rfl⟩
  | none => simp [references_of_none has] at reads

/-- What a cell refers to has a name. -/
theorem Reads.named (reads : formulas.Reads a b) : ∃ p : Position, p.Named ∧ p.id = b := by
  obtain ⟨formula, has⟩ := reads.has_formula
  rw [Reads, references_of_some has] at reads
  exact Expr.exists_of_mem_referencesIn reads

/-- A cell without a formula leads nowhere. -/
theorem terminates_of_none (without : formulas x = none) : Terminates formulas.Reads x := by
  refine ⟨x, fun y reads => ?_⟩
  simp [Reads, references_of_none without] at reads

/-- Nothing but itself is reached from a cell without a formula. -/
theorem eq_of_reaches (without : formulas a = none)
    (reached : Relation.ReflTransGen formulas.Reads a b) : a = b := by
  -- The way has no first step.
  rcases reached.cases_head with same | ⟨c, reads, -⟩
  · exact same
  · simp [Reads, references_of_none without] at reads

end Formulas

namespace Sheet

/-- The formula of the cell at a position, if it has one. -/
def formulaAt (sheet : Sheet) (p : Position) : Option String := (sheet p).bind Cell.activeFormula?

/-- The formula of the cell with an id; only the ids of positions belong to cells. -/
def formulas (sheet : Sheet) : Formulas := fun id =>
  -- A reference that is written in another way is no id.
  match Position.ofText? id with
  | .ok (some p) => if p.id = id then formulaAt sheet p else none
  | _ => none

/-- Sheets with the same formula at every position have the same formulas. -/
theorem formulas_congr {sheet other : Sheet} (same : ∀ p, formulaAt sheet p = formulaAt other p) :
    formulas sheet = formulas other := by
  -- The formulas of cells are looked up by their positions.
  funext id
  simp only [formulas, same]

/-- Sheets with the same formula everywhere but at one position differ in its formula alone. -/
theorem formulas_congr_of_ne {sheet other : Sheet} {p : Position} {x : CellId}
    (same : ∀ q, q ≠ p → formulaAt sheet q = formulaAt other q) (apart : x ≠ p.id) :
    formulas sheet x = formulas other x := by
  unfold formulas
  -- An id that is no position has no formula in either sheet.
  cases Position.ofText? x with
  | error e => rfl
  | ok found =>
    cases found with
    | none => rfl
    | some q =>
      dsimp only
      split
      · rename_i here
        exact same q fun there => apart (by rw [← here, there])
      · rfl

/-- The formula of a cell by its id is the formula at its position. -/
@[simp] theorem formulas_id (sheet : Sheet) {p : Position} (named : p.Named) :
    formulas sheet p.id = formulaAt sheet p := by
  simp [formulas, Position.ofText?_id named]

/-- A cell that has a formula has a name. -/
theorem named_of_formulas {sheet : Sheet} {x : CellId} {formula : String}
    (has : formulas sheet x = some formula) :
    ∃ p : Position, p.Named ∧ p.id = x ∧ formulaAt sheet p = some formula := by
  unfold formulas at has
  -- Only a position that is read from the id can have the formula.
  split at has
  · rename_i p read
    split at has
    · rename_i same
      exact ⟨p, (Position.ofText?_delivers x).of_ok read p rfl, same, has⟩
    · simp at has
  · simp at has

/-- The formulas of a sheet, but for one cell that is given a formula. -/
def formulasWith (sheet : Sheet) (c : CellId) (formula : String) : Formulas := fun x =>
  -- The given formula stands for whatever the cell holds.
  if x = c then some formula else formulas sheet x

end Sheet

namespace DependencyGraph

variable {formulas : Formulas} {graph later last : DependencyGraph} {a b id x : CellId}

/-- The record of a cell is what its formula says. -/
structure Current (formulas : Formulas) (graph : DependencyGraph) (x : CellId) : Prop where
  dependencies : graph.dependenciesOf x = Std.ExtTreeSet.ofList (formulas.references x)
  formula : graph.formulaOf x = formulas x

/-- The record of a cell is the same in two graphs. -/
structure SameRecord (graph later : DependencyGraph) (x : CellId) : Prop where
  dependencies : later.dependenciesOf x = graph.dependenciesOf x
  formula : later.formulaOf x = graph.formulaOf x

/-- Every record of a graph is either current in a later graph or is still there. -/
structure Refreshes (formulas : Formulas) (graph later : DependencyGraph) : Prop where
  records : ∀ x, Current formulas later x ∨ SameRecord graph later x
  transposed : graph.Transposed → later.Transposed

/-- A cell whose record is current reads what its formula refers to. -/
theorem Current.reads_iff (current : Current formulas graph a) :
    graph.Reads a b ↔ formulas.Reads a b := by
  rw [DependencyGraph.Reads, current.dependencies, Std.ExtTreeSet.mem_ofList,
    List.contains_iff_mem, Formulas.Reads]

/-- What is current stays so. -/
theorem Refreshes.current (refreshes : Refreshes formulas graph later)
    (current : Current formulas graph x) : Current formulas later x := by
  -- Either the later record is current by itself, or it is still the earlier one.
  rcases refreshes.records x with new | same
  · exact new
  · exact ⟨same.dependencies.trans current.dependencies, same.formula.trans current.formula⟩

/-- A graph refreshes itself. -/
theorem Refreshes.refl (formulas : Formulas) (graph : DependencyGraph) :
    Refreshes formulas graph graph :=
  ⟨fun _ => .inr ⟨rfl, rfl⟩, id⟩

/-- What refreshes a refreshed graph refreshes the graph. -/
theorem Refreshes.trans (first : Refreshes formulas graph later)
    (second : Refreshes formulas later last) : Refreshes formulas graph last := by
  refine ⟨fun x => ?_, fun kept => second.transposed (first.transposed kept)⟩
  -- The later graph decides; a record that it keeps is the one of the graph between.
  rcases second.records x with new | same
  · exact .inl new
  · rcases first.records x with current | same'
    · exact .inl (second.current current)
    · exact .inr ⟨same.dependencies.trans same'.dependencies, same.formula.trans same'.formula⟩

/-- Whatever is read in a refreshed graph was read before, or is what a formula refers to. -/
theorem Refreshes.reads (refreshes : Refreshes formulas graph later) (reads : later.Reads a b) :
    graph.Reads a b ∨ formulas.Reads a b := by
  rcases refreshes.records a with new | same
  · exact .inr (new.reads_iff.mp reads)
  · rw [DependencyGraph.Reads, same.dependencies] at reads
    exact .inl reads

/-- Recording the formula of a cell makes its record current. -/
theorem current_setDependencies {formula : String} (has : formulas id = some formula) :
    Current formulas
      (graph.setDependencies id (Expr.referencesIn formula) (some formula)) id := by
  -- Both fields are what has just been recorded for the cell.
  refine ⟨?_, ?_⟩
  · simp [Formulas.references_of_some has]
  · simp [has]

/-- Recording the formula of a cell refreshes the graph. -/
theorem refreshes_setDependencies {formula : String} (graph : DependencyGraph)
    (has : formulas id = some formula) :
    Refreshes formulas graph
      (graph.setDependencies id (Expr.referencesIn formula) (some formula)) := by
  refine ⟨fun x => ?_, fun kept => kept.setDependencies _ _ _⟩
  -- The record of one cell is new, and all others are the same.
  by_cases same : x = id
  · subst same
    exact .inl (current_setDependencies has)
  · exact .inr ⟨by simp [same], by simp [same]⟩

/-- Removing a cell that has no formula makes its record current. -/
theorem current_remove (graph : DependencyGraph) (without : formulas id = none) :
    Current formulas (graph.remove id) id := by
  -- Nothing is recorded for the cell any more.
  refine ⟨?_, ?_⟩
  · simp [Formulas.references_of_none without]
  · simp [without]

/-- Removing a cell that has no formula refreshes the graph. -/
theorem refreshes_remove (graph : DependencyGraph) (without : formulas id = none) :
    Refreshes formulas graph (graph.remove id) := by
  refine ⟨fun x => ?_, fun kept => kept.remove _⟩
  -- The record of one cell is gone, and all others are the same.
  by_cases same : x = id
  · subst same
    exact .inl (current_remove graph without)
  · exact .inr ⟨by simp [same], by simp [same]⟩

/-- Only ids of positions are read, by whatever cells. -/
def Canonical (graph : DependencyGraph) : Prop :=
  ∀ a b, graph.Reads a b → ∃ p : Position, p.Named ∧ p.id = b

theorem canonical_empty : Canonical .empty := by
  intro a b reads
  simp [Reads, dependenciesOf, empty] at reads

/-- A formula refers to positions by their ids. -/
theorem Canonical.setDependencies (canonical : graph.Canonical) (id : CellId) (formula : String) :
    (graph.setDependencies id (Expr.referencesIn formula) (some formula)).Canonical := by
  intro a b reads
  -- The new record is that of a formula, and all others stay.
  rw [Reads, dependenciesOf_setDependencies] at reads
  split at reads
  · exact Expr.exists_of_mem_referencesIn (by simpa using reads)
  · exact canonical a b reads

theorem Canonical.remove (canonical : graph.Canonical) (id : CellId) :
    (graph.remove id).Canonical := by
  intro a b reads
  rw [Reads, dependenciesOf_remove] at reads
  -- The cell that was removed reads nothing.
  split at reads
  · simp at reads
  · exact canonical a b reads

/-- Records stay exact when one cell gets another formula and its own record is made current. -/
theorem Refreshes.exact {before : Formulas} (refreshes : Refreshes formulas graph later)
    (exact : ∀ x, Current before graph x) (others : ∀ x, x ≠ id → before x = formulas x)
    (current : Current formulas later id) (x : CellId) : Current formulas later x := by
  by_cases same : x = id
  · -- The cell itself is current, and a record of another one is current or kept.
    exact same ▸ current
  · rcases refreshes.records x with new | kept
    · exact new
    · -- The old record says what the formula still says.
      have references := Formulas.references_congr (others x same)
      exact ⟨by rw [kept.dependencies, (exact x).dependencies, references],
        by rw [kept.formula, (exact x).formula, others x same]⟩

end DependencyGraph
end Spreadsheet
