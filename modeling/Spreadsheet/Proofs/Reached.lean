import Spreadsheet.Proofs.Cache
import Spreadsheet.Proofs.Evaluator.Behaves
import Spreadsheet.Proofs.Workbook

/-!
The sessions that calls lead to, on any sheets and however the calls end, and what holds in all of
them: links have both directions, and only ids of positions are recorded as being read.
-/

namespace Spreadsheet

open Relation DependencyGraph Stateful

namespace Session

variable {session : Session} {x : CellId} {Inv : Session → Prop}

/--
The sessions that any calls lead to, on any sheets and whether the calls succeed or fail, from an
evaluator with any functions.
-/
inductive Reached : Session → Prop where
  /-- Nothing has been called yet. -/
  | start (evaluator : Evaluator) (maxAge : Int) : Reached (start evaluator maxAge)
  /-- A formula is evaluated. -/
  | evaluate {session : Session} (before : Reached session) (sheet : Sheet) (id formula : String) :
    Reached (Session.evaluate sheet id formula session).2
  /-- A formula is evaluated, and a failure of the formula is caught. -/
  | evaluateOrError {session : Session} (before : Reached session) (sheet : Sheet)
    (id formula : String) : Reached (Session.evaluateOrError sheet id formula session).2
  /-- What depends on a cell is computed anew. -/
  | recalculate {session : Session} (before : Reached session) (sheet : Sheet) (id : String) :
    Reached (recalculateDependents sheet id session).2
  /-- A cell of a sheet is edited. -/
  | edit {session : Session} (before : Reached session) (grid : Grid) (id : String)
    (input : Input) : Reached (Workbook.edit id input ⟨session, grid⟩).2.session
  /-- The formula of a cell is forgotten. -/
  | forget {session : Session} (before : Reached session) (id : String) :
    Reached (session.forget id)
  /-- What a cell reads is forgotten. -/
  | forgetDependencies {session : Session} (before : Reached session) (id : String) :
    Reached (session.forgetDependencies id)
  /-- All recorded dependencies are forgotten. -/
  | clearDependencies {session : Session} (before : Reached session) :
    Reached session.clearDependencies
  /-- The cached value of a cell is dropped. -/
  | invalidate {session : Session} (before : Reached session) (id : String) :
    Reached (session.invalidate id)
  /-- The cached values of a cell and of what was computed from it are dropped. -/
  | invalidateCascade {session : Session} (before : Reached session) (id : String) :
    Reached (session.invalidateCascade id)
  /-- A function is registered. -/
  | register {session : Session} (before : Reached session) (name : String) (f : SheetFunction) :
    Reached (session.register name f)
  /-- Cached values that are too old are dropped. -/
  | evict {session : Session} (before : Reached session) (maxAge : Option Int) :
    Reached (session.evict maxAge)
  /-- The clock is set. -/
  | tick {session : Session} (before : Reached session) (now : Int) : Reached (session.tick now)
  /-- Everything recorded and cached is forgotten. -/
  | reset {session : Session} (before : Reached session) : Reached session.reset

/-- An edit of a workbook leads on from its session, however it ends. -/
theorem Reached.edited {book after : Workbook} {id : String} {input : Input}
    {outcome : Except Failure (List (CellId × Value))} (reached : Reached book.session)
    (run : book.edit id input = (outcome, after)) : Reached after.session := by
  obtain ⟨session, grid⟩ := book
  -- The workbook is its session with its grid.
  have edited := reached.edit grid id input
  rw [run] at edited
  exact edited

/--
What holds of new sessions and is kept by the parts that calls are made of. A call that fails keeps
what the parts before its failure do.
-/
structure Invariant (Inv : Session → Prop) : Prop where
  start : ∀ evaluator maxAge, Inv (start evaluator maxAge)
  worked : ∀ session sheet id formula, Inv session → Inv (session.worked sheet id formula)
  record : ∀ session id v, Inv session → Inv (session.record id v)
  refresh : ∀ session id v, Inv session → Inv (session.refresh id v)
  forgetDependencies : ∀ session id, Inv session → Inv (session.forgetDependencies id)
  clearDependencies : ∀ session, Inv session → Inv session.clearDependencies
  invalidate : ∀ session id, Inv session → Inv (session.invalidate id)
  invalidateCascade : ∀ session id, Inv session → Inv (session.invalidateCascade id)
  register : ∀ session name f, Inv session → Inv (session.register name f)
  evict : ∀ session maxAge, Inv session → Inv (session.evict maxAge)
  tick : ∀ session now, Inv session → Inv (session.tick now)
  reset : ∀ session, Inv session → Inv session.reset

namespace Invariant

theorem evaluate (invariant : Invariant Inv) (sheet : Sheet) (id formula : String) :
    Keeps Inv (Session.evaluate sheet id formula) :=
  -- An evaluation keeps whatever working on a formula and recording a value keep.
  evaluate_keeps_of (fun _ => invariant.worked _ sheet id formula) fun _ v => invariant.record _ _ v

theorem evaluateOrError (invariant : Invariant Inv) (sheet : Sheet) (id formula : String) :
    Keeps Inv (Session.evaluateOrError sheet id formula) :=
  -- A failure that is caught is recorded like a value.
  evaluateOrError_keeps_of (fun _ => invariant.worked _ sheet id formula)
    fun _ v => invariant.record _ _ v

theorem recalculateDependents (invariant : Invariant Inv) (sheet : Sheet) (id : String) :
    Keeps Inv (Session.recalculateDependents sheet id) := by
  intro session inv
  -- A dependent is computed from its formula, or forgotten if it has none any more.
  refine recalculateDependents_keeps_of inv fun d _ => ?_
  exact renew_keeps_of (fun p formula _ _ => invariant.evaluateOrError sheet d formula)
    (fun p _ _ _ => invariant.forgetDependencies _ d) fun _ v => invariant.refresh _ d v

theorem forget (invariant : Invariant Inv) (id : String) (inv : Inv session) :
    Inv (session.forget id) :=
  -- Forgetting a cell forgets what it reads, and then drops what was computed from it.
  invariant.invalidateCascade _ id (invariant.forgetDependencies _ id inv)

theorem edit (invariant : Invariant Inv) (id : String) (input : Input) :
    Keeps (fun book => Inv book.session) (Workbook.edit id input) :=
  -- An edit is made of these three calls.
  Workbook.edit_keeps_of Inv (fun sheet => invariant.evaluateOrError sheet _)
    (fun _ => invariant.forget _) (fun sheet => invariant.recalculateDependents sheet _) input

end Invariant

/-- An invariant holds in every session that is reached. -/
theorem Reached.keeps (reached : Reached session) (invariant : Invariant Inv) : Inv session := by
  -- The induction is along the calls.
  induction reached with
  | start evaluator maxAge => exact invariant.start evaluator maxAge
  | evaluate _ sheet id formula ih => exact invariant.evaluate sheet id formula _ ih
  | evaluateOrError _ sheet id formula ih => exact invariant.evaluateOrError sheet id formula _ ih
  | recalculate _ sheet id ih => exact invariant.recalculateDependents sheet id _ ih
  | edit _ grid id input ih => exact invariant.edit id input ⟨_, grid⟩ ih
  | forget _ id ih => exact invariant.forget id ih
  | forgetDependencies _ id ih => exact invariant.forgetDependencies _ id ih
  | clearDependencies _ ih => exact invariant.clearDependencies _ ih
  | invalidate _ id ih => exact invariant.invalidate _ id ih
  | invalidateCascade _ id ih => exact invariant.invalidateCascade _ id ih
  | register _ name f ih => exact invariant.register _ name f ih
  | evict _ maxAge ih => exact invariant.evict _ maxAge ih
  | tick _ now ih => exact invariant.tick _ now ih
  | reset _ ih => exact invariant.reset _ ih

/-- What recording the references of a formula and removing a cell keep of the graph is an invariant. -/
theorem invariant_graph {Kept : DependencyGraph → Prop} (empty : Kept .empty)
    (records : ∀ graph id formula, Kept graph →
      Kept (graph.setDependencies id (Expr.referencesIn formula) (some formula)))
    (removes : ∀ graph id, Kept graph → Kept (graph.remove id)) :
    Invariant fun session => Kept session.graph where
  -- Of a session only working on a formula and forgetting dependencies change the graph.
  start _ _ := empty
  worked session sheet id formula kept := by
    -- Every evaluator keeps what recording keeps, whatever functions it knows.
    have any {α : Type} (x : Except Failure α) : Delivers (fun _ => True) (fun _ => True) x := by
      cases x <;> trivial
    have upholds : Upholds session.evaluator.registry Kept (fun _ => True) fun _ => True := {
      formula _ := trivial
      reading _ := any _
      computed _ := trivial
      list _ := trivial
      apart _ _ _ := trivial
      unary _ _ _ := any _
      binary _ _ _ _ _ := any _
      call _ _ _ _ _ _ := any _
      record := records
      clear := empty }
    have held : sheet.Holds fun _ => True := fun _ _ _ _ => trivial
    exact (Evaluator.evaluate_behaves upholds held (Text.upper id) formula session.workspace kept).1
  record _ _ _ kept := kept
  refresh _ _ _ kept := kept
  forgetDependencies session id kept := removes session.graph (Text.upper id) kept
  clearDependencies _ _ := empty
  invalidate _ _ kept := kept
  invalidateCascade _ _ kept := kept
  register _ _ _ kept := kept
  evict _ _ kept := kept
  tick _ _ kept := kept
  reset _ _ := empty

/-- The links of the cache always have both directions. -/
theorem invariant_cache : Invariant fun session => session.cache.Transposed where
  -- The links change only with the entries: each is recorded or dropped with both directions.
  start _ _ := Cache.transposed_empty
  worked _ _ _ _ kept := kept
  record _ _ _ kept := kept.record _ _ _ _
  refresh _ _ _ kept := kept.record _ _ _ _
  forgetDependencies _ _ kept := kept
  clearDependencies _ kept := kept
  invalidate _ _ kept := kept.drop _
  invalidateCascade _ _ kept := kept.dropAll _
  register _ _ _ kept := kept
  evict _ _ kept := kept.dropAll _
  tick _ _ kept := kept
  reset _ _ := Cache.transposed_empty

/-- The links of the graph and those of the cache have both directions. -/
structure Consistent (session : Session) : Prop where
  graph : session.graph.Transposed
  cache : session.cache.Transposed

/-- Whatever was called, the session is consistent. -/
theorem Reached.consistent (reached : Reached session) : Consistent session := by
  -- A record is written and removed in both directions at once.
  have graph : Invariant fun session => session.graph.Transposed :=
    invariant_graph transposed_empty
      (fun _ id formula kept => kept.setDependencies id _ (some formula))
      fun _ id kept => kept.remove id
  exact ⟨reached.keeps graph, reached.keeps invariant_cache⟩

/-- Whatever was called, only ids of positions are recorded as being read. -/
theorem Reached.canonical (reached : Reached session) : session.graph.Canonical :=
  -- What a formula refers to are ids of positions, and nothing else is ever recorded.
  reached.keeps (invariant_graph canonical_empty
    (fun _ id formula canonical => canonical.setDependencies id formula)
    fun _ id canonical => canonical.remove id)

/-- The cells that depend on a cell are those that the records lead from to it. -/
theorem Consistent.mem_allDependents (consistent : Consistent session) {id : String} :
    x ∈ session.allDependents id ↔ TransGen session.graph.Reads x (Text.upper id) :=
  mem_transitiveDependents consistent.graph

end Session
end Spreadsheet
