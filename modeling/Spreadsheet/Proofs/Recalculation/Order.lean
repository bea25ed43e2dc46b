import Spreadsheet.Proofs.Recalculation

/-!
The order in which the dependents of a cell are computed anew. They are put in the order of what they
read, and then in the order of what their cached values were computed from, so that entries which are
out of date can put a cell before one that it reads; no others can.
-/

namespace Spreadsheet

open Relation DependencyGraph Stateful

/-- A graph has no cycle if none is found behind any cell that reads something. -/
theorem DependencyGraph.acyclic_of_linked {graph : DependencyGraph}
    (none : ∀ x ∈ graph.reads.linked, graph.cycleFrom? x = none) (x : CellId) :
    ¬ TransGen graph.Reads x x := by
  intro around
  -- A cycle from the cell begins with something that it reads.
  obtain ⟨y, reads, -⟩ := TransGen.head'_iff.mp around
  have linked : x ∈ graph.reads.linked := by
    -- A cell without links reads nothing.
    by_contra outside
    rw [Links.linked, Std.ExtTreeMap.mem_keys] at outside
    simp [Reads, dependenciesOf, Links.of, Std.ExtTreeMap.getD_eq_fallback outside] at reads
  exact (terminates_of_cycleFrom?_eq_none (none x linked)).no_cycle ⟨x, .refl, around⟩

/-- A wanted cell comes before a later one if entries lead to that one from none of the cells before it. -/
theorem Cache.precedes_order_of_unmet {cache : Cache} {early late : List CellId} {a b : CellId}
    (first : a ∈ early) (second : b ∈ late)
    (unmet : ∀ d ∈ early, ¬ ReflTransGen cache.ComputedFrom d b) :
    Precedes (cache.order (early ++ late)) a b :=
  (Search.precedes_postorder_of_unmet first second (cache.leads_dependencies ▸ unmet)).filter
    (decide_eq_true (List.mem_append_left _ first)) (decide_eq_true (List.mem_append_right _ second))

namespace Session

variable {session after : Session} {sheet : Sheet} {id : String} {changes : List (CellId × Value)}

/-- The dependents of a cell without the cell itself, listed in some order. -/
structure Listing (session : Session) (id : String) where
  cells : List CellId
  lists : ∀ x, x ∈ cells ↔ x ∈ session.allDependents id ∧ x ≠ Text.upper id

/-- The dependents of a cell in the order of their ids. -/
def Listing.byId (session : Session) (id : String) : session.Listing id where
  cells := ((session.allDependents id).erase (Text.upper id)).toList
  lists x := by simp [ne_comm, and_comm]

/-- The dependents of a cell in the order in which they are computed if they are listed like this. -/
def Listing.order (listing : session.Listing id) : List CellId :=
  -- The order follows the dependencies, then the dependencies of the cached values.
  session.cache.order (session.graph.dependencyOrder listing.cells)

/-- Computes everything anew that depends on a cell, from what was listed. -/
def recalculateListed (sheet : Sheet) (listing : session.Listing id) :
    Except Failure (List (CellId × Value)) × Session :=
  -- The order is fixed before the first dependent is computed.
  listing.order.mapM (renew sheet) session

/-- Sessions list dependents by their ids. -/
theorem recalculateDependents_byId (session : Session) (sheet : Sheet) (id : String) :
    recalculateDependents sheet id session = recalculateListed sheet (Listing.byId session id) :=
  recalculateDependents_call sheet id session

/-- Entries lead from a cell to another one that it does not read any more. -/
structure Misled (session : Session) (d u : CellId) : Prop where
  other : d ≠ u
  entries : TransGen session.cache.ComputedFrom d u
  unread : ¬ TransGen session.graph.Reads d u

/-- A dependent is computed after each one that it reads, unless entries mislead one to it. -/
theorem Listing.precedes (listing : session.Listing id)
    (acyclic : ∀ x, ¬ TransGen session.graph.Reads x x) {u v : CellId} (first : u ∈ listing.cells)
    (second : v ∈ listing.cells) (way : TransGen session.graph.Reads u v)
    (led : ∀ d ∈ listing.cells, ¬ session.Misled d u) : Precedes listing.order v u := by
  -- In the order of the graph, the cell that is read comes first.
  have sorted : ∀ a ∈ listing.cells, ∀ b ∈ listing.cells, TransGen session.graph.Reads a b →
      Precedes (session.graph.dependencyOrder listing.cells) b a := fun a first b second =>
    precedes_dependencyOrder (fun _ _ ⟨x, _, around⟩ => acyclic x around) first second
  have distinct : (session.graph.dependencyOrder listing.cells).Nodup :=
    (Search.nodup_postorder _ _ _).filter _
  -- So the cell that is read stands in front of the other one there.
  obtain ⟨early, late, split, member⟩ := sorted u first v second way
  rw [Listing.order, split]
  refine Cache.precedes_order_of_unmet member List.mem_cons_self fun d before reaches => ?_
  -- Entries that lead from an earlier cell would stand for reads, which would make it a later one.
  have ahead : Precedes (session.graph.dependencyOrder listing.cells) d u :=
    ⟨early, late, split, before⟩
  -- No cell comes before itself.
  have other : d ≠ u := by
    rintro rfl
    exact ahead.asymm distinct ahead
  have among : d ∈ listing.cells :=
    mem_dependencyOrder.mp (split ▸ List.mem_append_left _ before)
  -- The entries lead from one cell to another, and they do not mislead.
  have entries := (reflTransGen_iff_eq_or_transGen.mp reaches).resolve_left other.symm
  have reads : TransGen session.graph.Reads d u := by
    by_contra unread
    exact led d among ⟨other, entries, unread⟩
  exact ahead.asymm distinct (sorted d among u first reads)

/--
The order of a recalculation, whatever order the dependents of the cell were listed in; sessions list
them by their ids. Where the dependency graph has no cycle, each dependent is computed once, after those
that it reads, directly or not, unless entries of the cache lead to it from another dependent that does
not read it any more. So the order is that of the graph if entries only lead along its reads.
-/
theorem recalculation_ordered (listing : session.Listing id)
    (acyclic : ∀ x, ¬ TransGen session.graph.Reads x x)
    (done : recalculateListed sheet listing = (.ok changes, after)) :
    recalculateDependents sheet id session = recalculateListed sheet (Listing.byId session id) ∧
    (changes.map Prod.fst).Nodup ∧
    (∀ x, x ∈ changes.map Prod.fst ↔ x ∈ session.allDependents id ∧ x ≠ Text.upper id) ∧
    (∀ u ∈ changes.map Prod.fst, ∀ v ∈ changes.map Prod.fst, TransGen session.graph.Reads u v →
      Precedes (changes.map Prod.fst) v u ∨ ∃ d ∈ changes.map Prod.fst, session.Misled d u) ∧
    ((∀ a b, session.cache.ComputedFrom a b → TransGen session.graph.Reads a b) →
      ∀ u ∈ changes.map Prod.fst, ∀ v ∈ changes.map Prod.fst, TransGen session.graph.Reads u v →
        Precedes (changes.map Prod.fst) v u) := by
  -- What is reported are the keys in the order of the computation.
  have keys : changes.map Prod.fst = listing.order := mapM_renew_keys done
  have members : ∀ x, x ∈ listing.order ↔ x ∈ listing.cells := fun x => by
    rw [Listing.order, Cache.mem_order, mem_dependencyOrder]
  rw [keys]
  refine ⟨recalculateDependents_byId session sheet id, Cache.nodup_order _ _,
    fun x => (members x).trans (listing.lists x), ?_, ?_⟩
  · intro u first v second way
    -- Either some dependent is misled, or none is and the order holds.
    by_cases misled : ∃ d ∈ listing.order, session.Misled d u
    · exact .inr misled
    · refine .inl (listing.precedes acyclic ((members u).mp first) ((members v).mp second) way ?_)
      exact fun d among leads => misled ⟨d, (members d).mpr among, leads⟩
  · intro along u first v second way
    refine listing.precedes acyclic ((members u).mp first) ((members v).mp second) way ?_
    -- A misled dependent would contradict that entries lead along reads.
    rintro d - ⟨-, entries, unread⟩
    -- Each entry of the way stands for reads.
    exact unread (TransGen.closed along d u entries)

end Session

namespace Workbook

/-- A sheet in which a cell refers to a second one, and that one to a third one that holds a number. -/
def descending : Grid :=
  -- The first cell of the sheet is not referred to yet.
  (((Grid.empty.put ⟨0, 0⟩ ⟨.whole 1, none, .number⟩).put ⟨1, 0⟩ ⟨.blank, some "=D1", .text⟩).put
    ⟨2, 0⟩ ⟨.blank, some "=B1", .text⟩).put ⟨3, 0⟩ ⟨.whole 1, none, .number⟩

/-- A session on the sheet in which the formula of the second cell has been evaluated. -/
def descended : Workbook :=
  (inSession (fun sheet => Session.evaluate sheet (⟨1, 0⟩ : Position).id "=D1")
    ⟨.start (.builtin 100) Cache.usualAge, descending⟩).2

/-- The second cell refers to the first one instead, which the session learns on the way to another. -/
def redirected : Workbook :=
  (inSession (fun sheet => Session.evaluate sheet (⟨2, 0⟩ : Position).id "=B1")
    (descended.enter (⟨1, 0⟩ : Position).id (.value (.text "=A1"))).2).2

/-- The cell that the second one referred to refers to it over another one, and has been evaluated. -/
def ascending : Workbook :=
  (inSession (fun sheet => Session.evaluate sheet (⟨3, 0⟩ : Position).id "=C1")
    (redirected.enter (⟨3, 0⟩ : Position).id (.value (.text "=C1"))).2).2

/-- The calls that lead there are calls on cells of the sheet. -/
theorem worked_ascending : Worked 100 ascending := by
  -- Each step is a call on a cell of the sheet.
  have start : Worked 100 ⟨.start (.builtin 100) Cache.usualAge, descending⟩ := .start descending _
  have first : Worked 100 descended := start.evaluate (p := ⟨1, 0⟩) ⟨by decide, by decide⟩ "=D1"
  have second : Worked 100 redirected :=
    (first.set (p := ⟨1, 0⟩) ⟨by decide, by decide⟩ _).evaluate (p := ⟨2, 0⟩)
      ⟨by decide, by decide⟩ "=B1"
  exact (second.set (p := ⟨3, 0⟩) ⟨by decide, by decide⟩ _).evaluate (p := ⟨3, 0⟩)
    ⟨by decide, by decide⟩ "=C1"

/-- Its dependency graph has no cycle. -/
theorem acyclic_ascending (x : CellId) : ¬ TransGen ascending.session.graph.Reads x x :=
  acyclic_of_linked (by decide +kernel) x

/-- The third cell reads the second one. -/
theorem reads_ascending : TransGen ascending.session.graph.Reads "C1" "B1" := by
  have link : "B1" ∈ ascending.session.graph.dependenciesOf "C1" := by decide +kernel
  exact .single link

/-- What depends on the first cell is computed anew, the second cell last of all. -/
theorem recalculates_ascending : ∃ changes after,
    Session.recalculateDependents ascending.grid.sheet "A1" ascending.session = (.ok changes, after) ∧
    changes.map Prod.fst = ["C1", "D1", "B1"] := by
  have keys : (Session.recalculateDependents ascending.grid.sheet "A1"
      ascending.session).1.toOption.map (List.map Prod.fst) = some ["C1", "D1", "B1"] := by
    decide +kernel
  -- The run is named before it is split, so that it is not evaluated again.
  generalize Session.recalculateDependents ascending.grid.sheet "A1" ascending.session = run at keys ⊢
  rcases run with ⟨e | changes, after⟩
  · cases keys
  · exact ⟨changes, after, rfl, Option.some.inj keys⟩

/-- The third cell is computed before the second one, though it reads that one and there is no cycle. -/
theorem recalculation_misplaced : Worked 100 ascending ∧
    (∀ x, ¬ TransGen ascending.session.graph.Reads x x) ∧
    TransGen ascending.session.graph.Reads "C1" "B1" ∧
    ∃ changes after, Session.recalculateDependents ascending.grid.sheet "A1" ascending.session =
        (.ok changes, after) ∧
      "B1" ∈ changes.map Prod.fst ∧ "C1" ∈ changes.map Prod.fst ∧
      ¬ Precedes (changes.map Prod.fst) "B1" "C1" := by
  obtain ⟨changes, after, run, keys⟩ := recalculates_ascending
  refine ⟨worked_ascending, acyclic_ascending, reads_ascending, changes, after, run, ?_⟩
  -- Nothing stands in front of the third cell in the order that was computed.
  rw [keys]
  refine ⟨by decide, by decide, fun before => ?_⟩
  have ahead : "B1" ∈ ([] : List CellId) := before.mem_early (by decide)
  exact List.not_mem_nil ahead

/-- There entries that are out of date lead from another dependent to the third cell. -/
theorem recalculation_ordered_ascending : (∀ x, ¬ TransGen ascending.session.graph.Reads x x) ∧
    ∃ changes after, Session.recalculateListed ascending.grid.sheet
        (Session.Listing.byId ascending.session "A1") = (.ok changes, after) ∧
      (changes.map Prod.fst).Nodup ∧
      (Precedes (changes.map Prod.fst) "B1" "C1" ∨
        ∃ d ∈ changes.map Prod.fst, ascending.session.Misled d "C1") := by
  obtain ⟨changes, after, run, keys⟩ := recalculates_ascending
  -- The run is the one from the list by ids.
  rw [Session.recalculateDependents_byId] at run
  obtain ⟨-, distinct, -, ordered, -⟩ := Session.recalculation_ordered _ acyclic_ascending run
  exact ⟨acyclic_ascending, changes, after, run, distinct,
    ordered "C1" (by rw [keys]; decide) "B1" (by rw [keys]; decide) reads_ascending⟩

end Workbook
end Spreadsheet
