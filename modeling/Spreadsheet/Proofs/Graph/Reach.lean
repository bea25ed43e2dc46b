import Mathlib.Data.List.Chain
import Mathlib.Logic.Relation
import Spreadsheet.Graph.Search

/-! Links between cells as a relation: what a cell leads to, and the cycles behind it. -/

namespace Spreadsheet

open Relation

variable {r s : CellId → CellId → Prop} {a b : CellId}

/-- A cell leads to a cell that leads back to itself. -/
def CycleBehind (r : CellId → CellId → Prop) (a : CellId) : Prop :=
  -- The cell itself need not lie on the cycle.
  ∃ x, ReflTransGen r a x ∧ TransGen r x x

/-- A walk along links that ends in the cell where it began. -/
structure IsCycle (r : CellId → CellId → Prop) (path : List CellId) : Prop where
  linked : path.IsChain r
  closed : ∃ x inner, path = x :: inner ++ [x]

/-- Every walk from a cell comes to an end. -/
def Terminates (r : CellId → CellId → Prop) (a : CellId) : Prop :=
  -- What follows a cell is smaller than the cell.
  Acc (fun y x => r x y) a

/-- A cycle behind a cell is still there if all links of cells reached from it are. -/
theorem CycleBehind.transfer (kept : ∀ x y, ReflTransGen r a x → r x y → s x y)
    (cycle : CycleBehind r a) : CycleBehind s a := by
  obtain ⟨x, reached, around⟩ := cycle
  -- Every link on the way to the cycle, and around it, starts in a cell that is reached.
  have walk : ∀ {y}, ReflTransGen r a y → ReflTransGen s a y := by
    intro y reached
    induction reached with
    | refl => exact .refl
    | tail before step ih => exact ih.tail (kept _ _ before step)
  have round : ∀ {y}, TransGen r x y → TransGen s x y := by
    intro y around
    induction around with
    | single step => exact .single (kept _ _ reached step)
    | tail before step ih => exact ih.tail (kept _ _ (reached.trans before.to_reflTransGen) step)
  exact ⟨x, walk reached, round around⟩

/-- More links keep every cycle. -/
theorem CycleBehind.mono (more : ∀ x y, r x y → s x y) (cycle : CycleBehind r a) :
    CycleBehind s a := cycle.transfer fun x y _ => more x y

/-- A cycle behind a cell is behind every cell that leads to it. -/
theorem CycleBehind.head (step : r a b) (cycle : CycleBehind r b) : CycleBehind r a := by
  obtain ⟨x, reached, around⟩ := cycle
  exact ⟨x, .head step reached, around⟩

/-- A cycle is still there without the links of a cell behind which there is none. -/
theorem CycleBehind.without {c : CellId} (kept : ∀ x y, x ≠ c → r x y → s x y)
    (clear : ¬ CycleBehind r c) (cycle : CycleBehind r a) : CycleBehind s a := by
  obtain ⟨x, reached, around⟩ := cycle
  -- Every cell on the way to the cycle, and around it, has the cycle behind it.
  have walk : ∀ {y}, ReflTransGen r y x → ReflTransGen s y x := by
    intro y reached
    induction reached using ReflTransGen.head_induction_on with
    | refl => exact .refl
    | @head y _ step rest ih =>
      exact .head (kept _ _ (fun here => clear (here ▸ ⟨x, .head step rest, around⟩)) step) ih
  obtain ⟨y, step, back⟩ := TransGen.head'_iff.mp around
  have apart : x ≠ c := fun here => clear (here ▸ ⟨x, .refl, around⟩)
  exact ⟨x, walk reached, .head' (kept _ _ apart step) (walk back)⟩

/-- A chain leads from its first cell to its last one. -/
theorem reaches_of_isChain {path : List CellId} (linked : (a :: path).IsChain r) :
    ReflTransGen r a ((a :: path).getLast (by simp)) := by
  -- Each link of the chain extends the way by one cell.
  induction path generalizing a with
  | nil => exact .refl
  | cons b rest ih =>
    rw [List.isChain_cons_cons] at linked
    rw [List.getLast_cons (by simp)]
    exact .head linked.1 (ih linked.2)

/-- A chain leads from its first cell to each of its cells. -/
theorem reaches_of_mem_isChain {path : List CellId} (linked : (a :: path).IsChain r) {x : CellId}
    (member : x ∈ a :: path) : ReflTransGen r a x := by
  induction path generalizing a with
  | nil => exact List.mem_singleton.mp member ▸ .refl
  | cons b rest ih =>
    rw [List.isChain_cons_cons] at linked
    rcases List.mem_cons.mp member with same | later
    · exact same ▸ .refl
    · exact .head linked.1 (ih linked.2 later)

/-- A closed walk leads from its first cell back to it. -/
theorem IsCycle.around {path : List CellId} (cycle : IsCycle r path) :
    ∃ x, path.head? = some x ∧ TransGen r x x := by
  obtain ⟨linked, x, inner, rfl⟩ := cycle
  refine ⟨x, rfl, ?_⟩
  -- After the first link the rest of the walk leads to the last cell.
  cases inner with
  | nil =>
    simp only [List.cons_append, List.nil_append, List.isChain_cons_cons] at linked
    exact .single linked.1
  | cons b rest =>
    simp only [List.cons_append, List.isChain_cons_cons] at linked
    have onwards := reaches_of_isChain linked.2
    simp only [← List.cons_append, List.getLast_append_singleton] at onwards
    exact TransGen.head' linked.1 onwards

/-- More links keep a closed walk. -/
theorem IsCycle.mono {path : List CellId} (more : ∀ x y, r x y → s x y)
    (cycle : IsCycle r path) : IsCycle s path :=
  ⟨cycle.linked.imp more, cycle.closed⟩

/-- A chain of links has a link that is none of others if it is no chain of those. -/
theorem exists_link_of_not_isChain {path : List CellId} (linked : path.IsChain r)
    (other : ¬ path.IsChain s) : ∃ a b, [a, b] <:+: path ∧ r a b ∧ ¬ s a b := by
  -- The induction is along the chain, whose first link is looked at first.
  induction path with
  | nil => exact absurd .nil other
  | cons a rest ih =>
    cases rest with
    | nil => exact absurd (.singleton a) other
    | cons b rest =>
      rw [List.isChain_cons_cons] at linked other
      by_cases first : s a b
      · obtain ⟨c, d, inside, link, missing⟩ := ih linked.2 fun chain => other ⟨first, chain⟩
        exact ⟨c, d, inside.trans (List.suffix_cons a _).isInfix, link, missing⟩
      · exact ⟨a, b, ⟨[], rest, rfl⟩, linked.1, first⟩

/-- From a cell where every walk ends, every walk ends at whatever the cell leads to. -/
theorem Terminates.reach (ends : Terminates r a) (reached : ReflTransGen r a b) :
    Terminates r b := by
  -- Accessibility passes along each link of the way.
  induction reached with
  | refl => exact ends
  | tail _ step ih => exact ih.inv step

/-- A cell is reached along other links if those that do not start in it are among them. -/
theorem transGen_of_outside {c : CellId} (kept : ∀ x y, x ≠ c → r x y → s x y)
    (reached : TransGen r a c) (apart : a ≠ c) : TransGen s a c := by
  -- The walk is cut where it first meets the cell.
  induction reached using TransGen.head_induction_on with
  | single step => exact .single (kept _ _ apart step)
  | @head a b step _ ih =>
    by_cases met : b = c
    · exact .single (met ▸ kept _ _ apart step)
    · exact .head (kept _ _ apart step) (ih met)

/-- Links that add none to the cells reached from a cell reach no more cells. -/
theorem reaches_of_fewer {x : CellId} (fewer : ∀ x y, ReflTransGen r a x → s x y → r x y)
    (reached : ReflTransGen s a x) : ReflTransGen r a x := by
  -- The induction is along the walk, each link of which starts in a cell that is reached.
  induction reached with
  | refl => exact .refl
  | tail _ step ih => exact ih.tail (fewer _ _ ih step)

/-- Every walk from a cell still ends if the cells reached from it have no more links. -/
theorem Terminates.of_fewer (fewer : ∀ x y, ReflTransGen r a x → s x y → r x y)
    (ends : Terminates r a) : Terminates s a := by
  induction ends with
  | intro a _ ih =>
    refine ⟨a, fun y step => ?_⟩
    have link := fewer a y .refl step
    exact ih y link fun x z reached => fewer x z (.head link reached)

/-- Whether every walk from a cell ends depends on the links of the cells reached from it. -/
theorem terminates_congr (same : ∀ x y, ReflTransGen r a x → (r x y ↔ s x y)) :
    Terminates r a ↔ Terminates s a := by
  have fewer : ∀ x y, ReflTransGen r a x → s x y → r x y := fun x y reached =>
    (same x y reached).mpr
  refine ⟨.of_fewer fewer, .of_fewer fun x y reached => ?_⟩
  exact (same x y (reaches_of_fewer fewer reached)).mp

/-- Where every walk ends there is no cycle. -/
theorem Terminates.no_cycle (ends : Terminates r a) : ¬ CycleBehind r a := by
  rintro ⟨x, reached, around⟩
  -- A cell on a cycle would be smaller than itself.
  have settled : Acc (TransGen fun y x => r x y) x := (ends.reach reached).transGen
  have back : TransGen (fun y x => r x y) x x := transGen_swap.mp around
  induction settled with
  | intro x _ ih => exact ih x back (reached) around back

end Spreadsheet
