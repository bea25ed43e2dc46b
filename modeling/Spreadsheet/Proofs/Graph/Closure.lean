import Mathlib.Computability.StateTransition
import Spreadsheet.Proofs.Graph.History

/-!
Breadth-first searches step by step, with a queue of the cells from which they still go on. In whatever
order cells are gone through they end with a closure: of what follows where they set out, or of that and
of where they set out. So what reads some cells, directly or not, is found in any dependency graph.
-/

namespace Spreadsheet

open Relation

namespace Links

/-- An order in which the cells that each cell is linked to are gone through. -/
structure Listing (links : Links) where
  next : CellId → List CellId
  lists : ∀ x y, y ∈ next x ↔ y ∈ links.of x

/-- The cells that follow any cell in such an order follow finitely many. -/
theorem Listing.covered {links : Links} (listing : links.Listing) :
    ∃ linked : Finset CellId, ∀ x, listing.next x ≠ [] → x ∈ linked := by
  obtain ⟨linked, covers, -⟩ := links.roomy
  refine ⟨linked, fun x followed => covers x fun none => ?_⟩
  -- A cell that is followed by others is linked to them.
  obtain ⟨y, member⟩ := List.exists_mem_of_ne_nil _ followed
  have link := Links.mem_next.mpr ((listing.lists x y).mp member)
  simp [none] at link

end Links

namespace Search

/-- A search on its way: the cells that it has found, and those from which it has still to go on. -/
structure Frontier where
  found : CellSet
  queue : List CellId

namespace Frontier

variable {next : CellId → List CellId} {starts : List CellId} {frontier after : Frontier} {x : CellId}
  {step? : Frontier → Option Frontier}

/-- Finds a cell, from which the search has then to go on; a cell that was found before is passed. -/
def find (frontier : Frontier) (id : CellId) : Frontier :=
  -- New cells go to the end of the queue.
  if id ∈ frontier.found then frontier else ⟨frontier.found.insert id, frontier.queue ++ [id]⟩

/-- The next step of a search that finds the cells behind the first one of the queue, if there is one. -/
def behind? (next : CellId → List CellId) : Frontier → Option Frontier
  -- Where the search sets out is found only if it lies behind some cell.
  | ⟨_, []⟩ => none
  | ⟨found, id :: queue⟩ => some ((next id).foldl find ⟨found, queue⟩)

/-- The next step of a search that finds the first cell of the queue, if there is one. -/
def among? (next : CellId → List CellId) : Frontier → Option Frontier
  -- The cells behind a new one go to the end of the queue, unless they were found before.
  | ⟨_, []⟩ => none
  | ⟨found, id :: queue⟩ =>
    if id ∈ found then some ⟨found, queue⟩
    else some ⟨found.insert id, queue ++ (next id).filter (· ∉ found.insert id)⟩

/-- What a search from some cells has found when it is over; no set if it goes on forever. -/
def finds (step? : Frontier → Option Frontier) (starts : List CellId) : Part CellSet :=
  -- Nothing is found before the first step.
  (StateTransition.eval step? ⟨∅, starts⟩).map found

/-- A search ends if each step makes its rank or, with no higher rank, its queue smaller. -/
theorem exists_eval (rank : Frontier → Nat)
    (smaller : ∀ frontier after, step? frontier = some after → rank after < rank frontier ∨
      rank after ≤ rank frontier ∧ after.queue.length < frontier.queue.length)
    (frontier : Frontier) : ∃ last, last ∈ StateTransition.eval step? frontier := by
  -- The recursion is on the rank and the queue after one more step.
  cases step : step? frontier with
  | none => exact ⟨frontier, StateTransition.mem_eval.mpr ⟨.refl, step⟩⟩
  | some after =>
    have less := smaller frontier after step
    obtain ⟨last, ends⟩ := exists_eval rank smaller after
    exact ⟨last, by rwa [StateTransition.reaches_eval (.single step)]⟩
termination_by (rank frontier, frontier.queue.length)
decreasing_by
  rw [Prod.lex_iff]
  omega

/-- A search that ends has found what its invariant says of an empty queue. -/
theorem finds_eq_some (Inv : Frontier → Prop) {cells : CellSet}
    (ends : ∃ last, last ∈ StateTransition.eval step? ⟨∅, starts⟩) (begun : Inv ⟨∅, starts⟩)
    (kept : ∀ frontier after, Inv frontier → step? frontier = some after → Inv after)
    (final : ∀ frontier, step? frontier = none → Inv frontier →
      ∀ x, x ∈ frontier.found ↔ x ∈ cells) : finds step? starts = .some cells := by
  -- Finitely many steps lead to the end, so the invariant holds there.
  obtain ⟨last, reached⟩ := ends
  obtain ⟨way, stopped⟩ := StateTransition.mem_eval.mp reached
  have holds : Inv last := by
    -- The induction is along the steps.
    clear reached stopped
    induction way with
    | refl => exact begun
    | tail _ step ih => exact kept _ _ ih step
  refine Part.eq_some_iff.mpr ((Part.mem_map_iff found).mpr ⟨last, reached, ?_⟩)
  exact Std.ExtTreeSet.ext_mem fun x => final last stopped holds x

section Behind

/-- Going through some cells finds those among them that were not found before. -/
theorem mem_found_foldl {ids : List CellId} :
    x ∈ (ids.foldl find frontier).found ↔ x ∈ frontier.found ∨ x ∈ ids := by
  -- The induction is along the cells; a cell that was found before changes nothing.
  induction ids generalizing frontier with
  | nil => simp
  | cons id rest ih =>
    rw [List.foldl_cons, ih, find]
    split
    · rename_i old
      grind
    · simp only [Std.ExtTreeSet.mem_insert, Std.LawfulEqCmp.compare_eq_iff_eq, List.mem_cons]
      grind

/-- Going through some cells puts those among them in the queue that were not found before. -/
theorem mem_queue_foldl {ids : List CellId} :
    x ∈ (ids.foldl find frontier).queue ↔ x ∈ frontier.queue ∨ x ∈ ids ∧ x ∉ frontier.found := by
  -- The induction is along the cells, of which each new one is put at the end.
  induction ids generalizing frontier with
  | nil => simp
  | cons id rest ih =>
    rw [List.foldl_cons, ih, find]
    split
    · rename_i old
      grind
    · simp only [Std.ExtTreeSet.mem_insert, Std.LawfulEqCmp.compare_eq_iff_eq, List.mem_cons,
        List.mem_append]
      grind

/-- Going through cells that were all found before changes nothing. -/
theorem foldl_find_of_found {ids : List CellId} (old : ∀ id ∈ ids, id ∈ frontier.found) :
    ids.foldl find frontier = frontier := by
  -- None of the cells is new.
  induction ids with
  | nil => rfl
  | cons id rest ih =>
    rw [List.foldl_cons, find, if_pos (old id List.mem_cons_self)]
    exact ih fun x member => old x (List.mem_cons_of_mem _ member)

/-- What a search has found behind some cells, and what it has still to go on from. -/
structure Behind (next : CellId → List CellId) (starts : List CellId) (frontier : Frontier) : Prop where
  sound : ∀ x ∈ frontier.found, ∃ start ∈ starts, TransGen (Leads next) start x
  queued : ∀ x ∈ frontier.queue, x ∈ starts ∨ x ∈ frontier.found
  /-- What follows a cell is found, or the search has still to go on from the cell. -/
  covered : ∀ x, x ∈ starts ∨ x ∈ frontier.found →
    x ∈ frontier.queue ∨ ∀ y ∈ next x, y ∈ frontier.found

/-- Each step finds what follows one more cell. -/
theorem Behind.step (behind : Behind next starts frontier) (step : behind? next frontier = some after) :
    Behind next starts after := by
  obtain ⟨found, _ | ⟨id, queue⟩⟩ := frontier
  · cases step
  · obtain rfl := Option.some.inj step
    obtain ⟨sound, queued, covered⟩ := behind
    -- The cell is one of the starts, or it lies behind one of them itself.
    have onwards : ∀ y ∈ next id, ∃ start ∈ starts, TransGen (Leads next) start y := by
      intro y member
      rcases queued id List.mem_cons_self with start | old
      · exact ⟨id, start, .single member⟩
      · obtain ⟨start, among, way⟩ := sound id old
        exact ⟨start, among, way.tail member⟩
    refine ⟨fun x member => ?_, fun x member => ?_, fun x known => ?_⟩
    · exact (mem_found_foldl.mp member).elim (sound x) (onwards x)
    · rw [mem_found_foldl]
      rcases mem_queue_foldl.mp member with old | new
      · exact (queued x (List.mem_cons_of_mem _ old)).imp_right .inl
      · exact .inr (.inr new.1)
    · simp only [mem_found_foldl, mem_queue_foldl] at known ⊢
      by_cases old : x ∈ starts ∨ x ∈ found
      · rcases covered x old with waiting | followed
        · rcases List.mem_cons.mp waiting with rfl | later
          · exact .inr fun y member => .inr member
          · exact .inl (.inl later)
        · exact .inr fun y member => .inl (followed y member)
      · -- A new cell has just been put in the queue.
        grind

/-- With an empty queue a search has found exactly what lies behind where it set out. -/
theorem Behind.mem_found (behind : Behind next starts frontier) (final : behind? next frontier = none) :
    x ∈ frontier.found ↔ ∃ start ∈ starts, TransGen (Leads next) start x := by
  obtain ⟨found, _ | ⟨id, queue⟩⟩ := frontier
  · -- Nothing waits any more, so what follows a known cell is found.
    refine ⟨behind.sound x, ?_⟩
    rintro ⟨start, among, way⟩
    have closed : ∀ y, y ∈ starts ∨ y ∈ found → ∀ z ∈ next y, z ∈ found := fun y known =>
      (behind.covered y known).resolve_left List.not_mem_nil
    -- The induction is along the way from the start.
    induction way with
    | single step => exact closed start (.inl among) _ step
    | tail _ step ih => exact closed _ (.inr ih) _ step
  · cases final

/-- A search behind some cells ends, and finds exactly what lies behind them. -/
theorem finds_behind {linked : Finset CellId} {cells : CellSet} (covers : ∀ x, next x ≠ [] → x ∈ linked)
    (exact : ∀ x, x ∈ cells ↔ ∃ start ∈ starts, TransGen (Leads next) start x) :
    finds (behind? next) starts = .some cells := by
  -- Each step goes on from a cell with something new behind it, or only makes the queue shorter.
  let rank (frontier : Frontier) : Nat := {x ∈ linked | ∃ y ∈ next x, y ∉ frontier.found}.card
  refine finds_eq_some (Behind next starts) (exists_eval rank ?_ _)
    ⟨fun x member => absurd member (by simp), fun x member => .inl member,
      fun x known => .inl (known.resolve_right (by simp))⟩
    (fun _ _ behind step => behind.step step)
    fun frontier final behind x => (behind.mem_found final).trans (exact x).symm
  rintro ⟨found, _ | ⟨id, queue⟩⟩ after step
  · cases step
  · obtain rfl := Option.some.inj step
    by_cases old : ∀ y ∈ next id, y ∈ found
    · rw [foldl_find_of_found old]
      exact .inr ⟨le_refl _, Nat.lt_succ_self _⟩
    · obtain ⟨y, member, new⟩ := not_forall₂.mp old
      -- The cell itself counts no more, as all that follows it is found now.
      have fewer : {x ∈ linked | ∃ y ∈ next x, y ∉ ((next id).foldl find ⟨found, queue⟩).found} ⊆
          {x ∈ linked | ∃ y ∈ next x, y ∉ found} := by
        intro x
        simp only [Finset.mem_filter, mem_found_foldl]
        grind
      refine .inl (Finset.card_lt_card ((Finset.ssubset_iff_of_subset fewer).mpr ⟨id, ?_, ?_⟩))
      · exact Finset.mem_filter.mpr ⟨covers id (List.ne_nil_of_mem member), y, member, new⟩
      · simp only [Finset.mem_filter, mem_found_foldl]
        grind

end Behind

section Among

/-- What a search has found among and behind some cells, and what it has still to go on from. -/
structure Among (next : CellId → List CellId) (starts : List CellId) (frontier : Frontier) : Prop where
  sound : ∀ x, x ∈ frontier.found ∨ x ∈ frontier.queue →
    ∃ start ∈ starts, ReflTransGen (Leads next) start x
  started : ∀ x ∈ starts, x ∈ frontier.found ∨ x ∈ frontier.queue
  covered : ∀ x ∈ frontier.found, ∀ y ∈ next x, y ∈ frontier.found ∨ y ∈ frontier.queue

/-- Each step finds the first cell of the queue and puts what follows it there. -/
theorem Among.step (among : Among next starts frontier) (step : among? next frontier = some after) :
    Among next starts after := by
  obtain ⟨found, _ | ⟨id, queue⟩⟩ := frontier
  · cases step
  · obtain ⟨sound, started, covered⟩ := among
    rw [among?] at step
    split at step
    · -- A cell that was found before only leaves the queue.
      rename_i old
      obtain rfl := Option.some.inj step
      have passed : ∀ x, x ∈ found ∨ x ∈ id :: queue → x ∈ found ∨ x ∈ queue := by grind
      exact ⟨fun x known => sound x (known.imp_right (List.mem_cons_of_mem _)),
        fun x start => passed x (started x start),
        fun x here y member => passed y (covered x here y member)⟩
    · rename_i new
      obtain rfl := Option.some.inj step
      -- What follows the cell is known from now on, whether it had been found before or not.
      have known : ∀ y, y ∈ found.insert id ∨ y ∈ queue ++ (next id).filter (· ∉ found.insert id) ↔
          y = id ∨ y ∈ next id ∨ y ∈ found ∨ y ∈ queue := by
        intro y
        simp only [Std.ExtTreeSet.mem_insert, Std.LawfulEqCmp.compare_eq_iff_eq, List.mem_append,
          List.mem_filter, decide_eq_true_eq]
        grind
      have kept : ∀ y, y ∈ found ∨ y ∈ id :: queue → _ := fun y old => (known y).mpr (by grind)
      obtain ⟨start, first, way⟩ := sound id (.inr List.mem_cons_self)
      refine ⟨fun x here => ?_, fun x member => kept x (started x member), fun x here y member => ?_⟩
      · rcases (known x).mp here with rfl | follows | old
        · exact ⟨start, first, way⟩
        · exact ⟨start, first, way.tail follows⟩
        · exact sound x (old.imp_right (List.mem_cons_of_mem _))
      · rcases Std.ExtTreeSet.mem_insert.mp here with same | old
        · obtain rfl := Std.LawfulEqCmp.eq_of_compare same
          exact (known y).mpr (.inr (.inl member))
        · exact kept y (covered x old y member)

/-- With an empty queue a search has found exactly what can be reached from where it set out. -/
theorem Among.mem_found (among : Among next starts frontier) (final : among? next frontier = none) :
    x ∈ frontier.found ↔ ∃ start ∈ starts, ReflTransGen (Leads next) start x := by
  obtain ⟨found, _ | ⟨id, queue⟩⟩ := frontier
  · refine ⟨fun here => among.sound x (.inl here), ?_⟩
    rintro ⟨start, first, way⟩
    -- The induction is along the way from the start.
    induction way with
    | refl => exact (among.started start first).resolve_right List.not_mem_nil
    | tail _ step ih => exact (among.covered _ ih _ step).resolve_right List.not_mem_nil
  · rw [among?] at final
    split at final <;> cases final

/-- A search from some cells ends, and finds exactly what can be reached from them. -/
theorem finds_among {linked : Finset CellId} {cells : CellSet} (covers : ∀ x, next x ≠ [] → x ∈ linked)
    (exact : ∀ x, x ∈ cells ↔ ∃ start ∈ starts, ReflTransGen (Leads next) start x) :
    finds (among? next) starts = .some cells := by
  -- Each step finds a cell that something follows, or only makes the queue shorter.
  let rank (frontier : Frontier) : Nat := {x ∈ linked | x ∉ frontier.found}.card
  refine finds_eq_some (Among next starts) (exists_eval rank ?_ _)
    ⟨fun x known => ⟨x, known.resolve_left (by simp), .refl⟩, fun x member => .inr member,
      fun x member => absurd member (by simp)⟩
    (fun _ _ among step => among.step step)
    fun frontier final among x => (among.mem_found final).trans (exact x).symm
  rintro ⟨found, _ | ⟨id, queue⟩⟩ after step
  · cases step
  · rw [among?] at step
    split at step
    · obtain rfl := Option.some.inj step
      exact .inr ⟨le_refl _, Nat.lt_succ_self _⟩
    · rename_i new
      obtain rfl := Option.some.inj step
      -- A cell that nothing follows is not counted, but the queue gets shorter.
      by_cases followed : next id = []
      · refine .inr ⟨Finset.card_le_card fun x => ?_, by simp [followed]⟩
        simp only [Finset.mem_filter, Std.ExtTreeSet.mem_insert]
        exact fun ⟨member, unseen⟩ => ⟨member, fun old => unseen (.inr old)⟩
      · exact .inl (Finset.card_lt_card (unseen_insert (covers id followed) new))

end Among

end Frontier
end Search

namespace DependencyGraph

/--
What reads some cells of a dependency graph that any changes made. In whatever order the readers of each
cell are gone through, the search for it ends, and it finds exactly the cells from which one of these is
reached by one read or more; one of these itself is found only if it reads one of them in this way.
-/
theorem transitiveDependents_exact (changes : List Change) (changed : List CellId) :
    (∀ order : (ofChanges changes).readers.Listing,
      Search.Frontier.finds (Search.Frontier.behind? order.next) changed =
        .some ((ofChanges changes).transitiveDependents changed)) ∧
    ∀ x, x ∈ (ofChanges changes).transitiveDependents changed ↔
      ∃ c ∈ changed, TransGen (ofChanges changes).Reads x c := by
  have transposed := (sound_ofChanges changes).transposed
  refine ⟨fun order => ?_, fun x => transposed.mem_transitiveDependents⟩
  obtain ⟨linked, covers⟩ := order.covered
  refine Search.Frontier.finds_behind covers fun x => ?_
  -- The search goes from each cell to its readers, against the direction of reads.
  have against : Search.Leads order.next = Function.swap (ofChanges changes).Reads := by
    funext a b
    exact propext ((order.lists a b).trans (transposed b a))
  simp only [transposed.mem_transitiveDependents, against, transGen_swap]

/-- A cell is found behind itself where it lies on a cycle. -/
example : (ofChanges [.set "A1" ["B1"] none, .set "B1" ["A1", "C1"] none]).transitiveDependents
    ["A1"] = Std.ExtTreeSet.ofList ["A1", "B1"] := by decide

end DependencyGraph
end Spreadsheet
