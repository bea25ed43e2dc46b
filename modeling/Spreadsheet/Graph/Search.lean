import Spreadsheet.Graph.Links

/-!
Depth-first searches along `next`, the cells that follow each cell. Every search is given room for a
number of steps down; a path without a repeat is no longer than one more than the cells that anything
follows.
-/

namespace Spreadsheet.Search

/-- What a search has come across: the cells it entered, and those it left, last one first. -/
structure Trail where
  seen : CellSet
  left : List CellId

/-- Enters a cell that was not seen, then everything after it, and leaves it. -/
def visit (next : CellId → List CellId) : Nat → Trail → CellId → Trail
  -- Without room nothing is entered.
  | 0, trail, _ => trail
  | room + 1, trail, id =>
    if id ∈ trail.seen then trail
    else
      let entered : Trail := { trail with seen := trail.seen.insert id }
      let inside := (next id).foldl (visit next room) entered
      { inside with left := id :: inside.left }

/-- Everything that can be reached from some cells, each cell after what follows it. -/
def postorder (next : CellId → List CellId) (room : Nat) (roots : List CellId) : List CellId :=
  -- Cells are listed in the order in which they are left.
  (roots.foldl (visit next room) ⟨∅, []⟩).left.reverse

/-- The part of a path from its last visit of a cell on, closed by that cell. -/
def closedAt (path : List CellId) (id : CellId) : List CellId :=
  -- The path lists the last cell first.
  id :: (path.takeWhile (· ≠ id)).reverse ++ [id]

/--
Searches for a cycle behind a cell that was not seen and that follows the first cell of `path`; gives
the cells seen so far if there is none.
-/
def cycleBehind (next : CellId → List CellId) :
    Nat → List CellId → CellSet → CellId → Except (List CellId) CellSet
  -- A cell of the path closes a cycle; a cell seen before leads to none.
  | 0, _, seen, _ => .ok seen
  | room + 1, path, seen, id =>
    (next id).foldlM (fun seen child =>
      if child ∈ id :: path then .error (closedAt (id :: path) child)
      else if child ∈ seen then .ok seen
      else cycleBehind next room (id :: path) seen child) (seen.insert id)

/-- A cycle that can be reached from a cell, its first cell repeated at the end. -/
def cycle? (next : CellId → List CellId) (room : Nat) (start : CellId) : Option (List CellId) :=
  -- The search ends at the first cycle.
  match cycleBehind next room [] ∅ start with
  | .error cycle => some cycle
  | .ok _ => none

end Spreadsheet.Search
