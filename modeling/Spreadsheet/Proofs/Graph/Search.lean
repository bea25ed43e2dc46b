import Mathlib.Data.Finset.Card
import Mathlib.Data.List.Nodup
import Mathlib.Data.List.TakeWhile
import Spreadsheet.Proofs.Graph.Reach

/-!
The depth-first searches: with enough room a postorder lists exactly what can be reached, and the
search for a cycle finds one exactly if there is one.
-/

namespace Spreadsheet.Search

open Relation

variable {next : CellId → List CellId} {room : Nat}

/-- A cell leads to the cells that follow it. -/
def Leads (next : CellId → List CellId) (a b : CellId) : Prop := b ∈ next a

/-- Room for more steps than there are cells not seen that anything follows. -/
def Roomy (next : CellId → List CellId) (room : Nat) (seen : CellSet) : Prop :=
  -- The cells that anything follows are among finitely many.
  ∃ linked : Finset CellId, (∀ x, next x ≠ [] → x ∈ linked) ∧ {x ∈ linked | x ∉ seen}.card < room

/-- Cells that have been seen need no room any more. -/
theorem Roomy.mono {seen more : CellSet} (enough : Roomy next room seen)
    (grown : ∀ x ∈ seen, x ∈ more) : Roomy next room more := by
  -- The same finitely many cells are enough.
  obtain ⟨linked, covers, fits⟩ := enough
  refine ⟨linked, covers, lt_of_le_of_lt (Finset.card_le_card ?_) fits⟩
  -- Whatever is still to be seen was so before.
  intro x member
  simp only [Finset.mem_filter] at member ⊢
  exact ⟨member.1, fun old => member.2 (grown x old)⟩

/-- A cell that is seen from now on is one less that is not. -/
theorem unseen_insert {linked : Finset CellId} {seen : CellSet} {id : CellId} (member : id ∈ linked)
    (unseen : id ∉ seen) : {x ∈ linked | x ∉ seen.insert id} ⊂ {x ∈ linked | x ∉ seen} := by
  have fewer : {x ∈ linked | x ∉ seen.insert id} ⊆ {x ∈ linked | x ∉ seen} := by
    intro x member
    simp only [Finset.mem_filter, Std.ExtTreeSet.mem_insert] at member ⊢
    exact ⟨member.1, fun old => member.2 (.inr old)⟩
  -- The cell itself makes the difference.
  exact (Finset.ssubset_iff_of_subset fewer).mpr
    ⟨id, Finset.mem_filter.mpr ⟨member, unseen⟩, by simp⟩

/-- Entering a cell that something follows needs one step of the room. -/
theorem Roomy.enter {seen : CellSet} {id : CellId} (enough : Roomy next (room + 1) seen)
    (unseen : id ∉ seen) (followed : next id ≠ []) : Roomy next room (seen.insert id) := by
  obtain ⟨linked, covers, fits⟩ := enough
  -- The cell was unseen and something follows it, so one cell less is left to be seen.
  have fewer := Finset.card_lt_card (unseen_insert (covers id followed) unseen)
  exact ⟨linked, covers, lt_of_lt_of_le fewer (Nat.lt_succ_iff.mp fits)⟩

/-- What a search adds to a trail when it sets out from some cells. -/
structure Extends (next : CellId → List CellId) (roots : List CellId) (before after : Trail) :
    Prop where
  grows : ∀ x ∈ before.seen, x ∈ after.seen
  /-- The cells left in between are those newly seen, each once. -/
  leaves : ∃ fresh, after.left = fresh ++ before.left ∧ fresh.Nodup ∧
    ∀ x, x ∈ fresh ↔ x ∈ after.seen ∧ x ∉ before.seen
  reached : ∀ x ∈ after.seen, x ∈ before.seen ∨ ∃ root ∈ roots, ReflTransGen (Leads next) root x

/-- A search from nowhere adds nothing. -/
theorem Extends.refl (trail : Trail) : Extends next [] trail trail :=
  ⟨fun _ seen => seen, ⟨[], rfl, .nil, by simp⟩, fun _ seen => .inl seen⟩

/-- One search after the other adds what both of them add. -/
theorem Extends.trans {first second : List CellId} {a b c : Trail} (one : Extends next first a b)
    (two : Extends next second b c) : Extends next (first ++ second) a c := by
  obtain ⟨fresh, left, distinct, newly⟩ := one.leaves
  obtain ⟨fresh', left', distinct', newly'⟩ := two.leaves
  -- The cells left in between are those of both searches, the later ones in front.
  refine ⟨fun x seen => two.grows x (one.grows x seen), ⟨fresh' ++ fresh, ?_, ?_, ?_⟩, ?_⟩
  · rw [left', left, List.append_assoc]
  · -- What the second search finds was not seen by the first.
    refine List.Nodup.append distinct' distinct fun x late early => ?_
    exact ((newly' x).mp late).2 ((newly x).mp early).1
  · intro x
    rw [List.mem_append, newly x, newly' x]
    have := one.grows x
    have := two.grows x
    tauto
  · intro x seen
    rcases two.reached x seen with old | ⟨root, member, way⟩
    · rcases one.reached x old with older | ⟨root, member, way⟩
      · exact .inl older
      · exact .inr ⟨root, List.mem_append_left _ member, way⟩
    · exact .inr ⟨root, List.mem_append_right _ member, way⟩

/-- If each visit extends the trail, so do visits one after the other. -/
theorem Extends.foldl {visit : Trail → CellId → Trail}
    (each : ∀ trail id, Extends next [id] trail (visit trail id)) (ids : List CellId)
    (trail : Trail) : Extends next ids trail (ids.foldl visit trail) := by
  -- The induction is along the cells.
  induction ids generalizing trail with
  | nil => exact .refl trail
  | cons id rest ih => exact (each trail id).trans (ih (visit trail id))

/-- A visit sees and leaves only what can be reached from its cell. -/
theorem visit_extends (next : CellId → List CellId) (room : Nat) (trail : Trail) (id : CellId) :
    Extends next [id] trail (visit next room trail id) := by
  -- The induction is on the room; the cells after the entered one are visited with less of it.
  induction room generalizing trail id with
  | zero =>
    exact ⟨fun _ seen => seen, ⟨[], rfl, .nil, by simp [visit]⟩, fun _ seen => .inl seen⟩
  | succ room ih =>
    rw [visit]
    split
    · exact ⟨fun _ seen => seen, ⟨[], rfl, .nil, by simp⟩, fun _ seen => .inl seen⟩
    · rename_i unseen
      -- The cells that follow are visited with the cell itself seen.
      have inside := Extends.foldl ih (next id) { trail with seen := trail.seen.insert id }
      obtain ⟨fresh, left, distinct, newly⟩ := inside.leaves
      have entered := inside.grows id (by simp)
      refine ⟨fun x seen => inside.grows x (by simp [seen]), ⟨id :: fresh, ?_, ?_, ?_⟩, ?_⟩
      · simp [left]
      · exact List.nodup_cons.mpr ⟨fun again => ((newly id).mp again).2 (by simp), distinct⟩
      · intro x
        by_cases same : x = id
        · subst same; simp [entered, unseen]
        · simp [newly x, same, Ne.symm same]
      · -- What is seen was seen before, is the cell itself, or lies behind a cell that follows.
        intro x seen
        rcases inside.reached x seen with old | ⟨root, member, way⟩
        · rcases Std.ExtTreeSet.mem_insert.mp old with same | older
          · exact .inr ⟨id, by simp, by rw [Std.LawfulEqCmp.eq_of_compare same]⟩
          · exact .inl older
        · exact .inr ⟨id, by simp, .head member way⟩

/-- A visit of a cell that was seen before changes nothing. -/
theorem visit_of_seen {trail : Trail} {id : CellId} (seen : id ∈ trail.seen) :
    visit next room trail id = trail := by
  cases room with
  | zero => rfl
  | succ room => rw [visit, if_pos seen]

/-- Every cell newly seen between two sets has all that follows it seen as well. -/
def ClosedBetween (next : CellId → List CellId) (before after : CellSet) : Prop :=
  -- Cells that were seen before may still be on the way.
  ∀ x ∈ after, x ∉ before → ∀ y ∈ next x, y ∈ after

/-- If each visit with enough room is complete, so are visits one after the other. -/
theorem foldl_complete {visit : Trail → CellId → Trail}
    (each : ∀ trail id, Extends next [id] trail (visit trail id))
    (complete : ∀ trail id, Roomy next room trail.seen →
      id ∈ (visit trail id).seen ∧ ClosedBetween next trail.seen (visit trail id).seen)
    (ids : List CellId) (trail : Trail) (enough : Roomy next room trail.seen) :
    (∀ id ∈ ids, id ∈ (ids.foldl visit trail).seen) ∧
      ClosedBetween next trail.seen (ids.foldl visit trail).seen := by
  -- The induction is along the cells, each visit leaving room for the next.
  induction ids generalizing trail with
  | nil => exact ⟨by simp, fun x after before => absurd after before⟩
  | cons id rest ih =>
    obtain ⟨here, closed⟩ := complete trail id enough
    obtain ⟨others, closed'⟩ := ih _ (enough.mono (each trail id).grows)
    -- What the first visit saw stays seen.
    have later := (Extends.foldl each rest (visit trail id)).grows
    refine ⟨fun x member => ?_, fun x after before y member => ?_⟩
    · rcases List.mem_cons.mp member with same | member
      · exact same ▸ later id here
      · exact others x member
    · -- The cell was newly seen by the first visit, or by one of the others.
      by_cases early : x ∈ (visit trail id).seen
      · exact later y (closed x early before y member)
      · exact closed' x after early y member

/-- With enough room a visit sees its cell and everything behind what it newly sees. -/
theorem visit_complete (trail : Trail) (id : CellId) (enough : Roomy next room trail.seen) :
    id ∈ (visit next room trail id).seen ∧
      ClosedBetween next trail.seen (visit next room trail id).seen := by
  -- The induction is on the room, as for the visit itself.
  induction room generalizing trail id with
  | zero => exact absurd enough (by simp [Roomy])
  | succ room ih =>
    rw [visit]
    split
    · rename_i seen
      exact ⟨seen, fun x after before => absurd after before⟩
    · rename_i unseen
      have inside := (Extends.foldl (visit_extends next room) (next id)
        { trail with seen := trail.seen.insert id }).grows
      refine ⟨inside id (by simp), fun x after before y member => ?_⟩
      -- Where nothing follows the cell, nothing is visited from it, and no room is needed.
      by_cases followed : next id = []
      · simp only [followed, List.foldl_nil] at after
        rcases Std.ExtTreeSet.mem_insert.mp after with same | older
        · rw [← Std.LawfulEqCmp.eq_of_compare same, followed] at member
          simp at member
        · exact absurd older before
      · obtain ⟨all, closed⟩ := foldl_complete (visit_extends next room) ih (next id)
          { trail with seen := trail.seen.insert id } (enough.enter unseen followed)
        by_cases same : x = id
        · exact all y (same ▸ member)
        · exact closed x after (by simp [before, Ne.symm same]) y member

/-- A postorder lists no cell twice. -/
theorem nodup_postorder (next : CellId → List CellId) (room : Nat) (roots : List CellId) :
    (postorder next room roots).Nodup := by
  -- The search sets out with nothing seen and nothing left.
  have found := Extends.foldl (visit_extends next room) roots ⟨∅, []⟩
  obtain ⟨fresh, left, distinct, _⟩ := found.leaves
  rw [postorder, left, List.append_nil]
  exact List.nodup_reverse.mpr distinct

/-- A postorder lists the cells that its search has seen. -/
theorem mem_postorder_iff_seen {roots : List CellId} {x : CellId} :
    x ∈ postorder next room roots ↔ x ∈ (roots.foldl (visit next room) ⟨∅, []⟩).seen := by
  -- The cells that were left are those that were seen.
  obtain ⟨fresh, left, _, newly⟩ := (Extends.foldl (visit_extends next room) roots ⟨∅, []⟩).leaves
  rw [postorder, left, List.append_nil, List.mem_reverse, newly x]
  simp

/-- With any room to begin with, a postorder lists the cells from which its search sets out. -/
theorem mem_postorder_of_mem {roots : List CellId} {x : CellId} (member : x ∈ roots) :
    x ∈ postorder next (room + 1) roots := by
  rw [mem_postorder_iff_seen]
  -- The cell is seen once its own visit is over, and stays so.
  obtain ⟨early, late, rfl⟩ := List.append_of_mem member
  rw [List.foldl_append, List.foldl_cons]
  refine (Extends.foldl (visit_extends next (room + 1)) late _).grows x ?_
  generalize early.foldl (visit next (room + 1)) ⟨∅, []⟩ = trail
  rw [visit]
  split
  · assumption
  · exact (Extends.foldl (visit_extends next room) (next x) _).grows x (by simp)

/-- A postorder lists only cells that can be reached. -/
theorem reached_of_mem_postorder {roots : List CellId} {x : CellId}
    (member : x ∈ postorder next room roots) : ∃ root ∈ roots, ReflTransGen (Leads next) root x := by
  have seen := mem_postorder_iff_seen.mp member
  rcases (Extends.foldl (visit_extends next room) roots ⟨∅, []⟩).reached x seen with old | found
  · exact absurd old (by simp)
  · exact found

/-- Setting out from further cells only lists more cells behind the others. -/
theorem postorder_isPrefix (next : CellId → List CellId) (room : Nat) (early late : List CellId) :
    postorder next room early <+: postorder next room (early ++ late) := by
  -- The later search adds cells in front of what was left, which come last in the list.
  obtain ⟨fresh, left, -⟩ := (Extends.foldl (visit_extends next room) late
    (early.foldl (visit next room) ⟨∅, []⟩)).leaves
  exact ⟨fresh.reverse, by rw [postorder, postorder, List.foldl_append, left, List.reverse_append]⟩

/-- With enough room a postorder lists exactly the cells that can be reached. -/
theorem mem_postorder {roots : List CellId} {x : CellId} (enough : Roomy next room ∅) :
    x ∈ postorder next room roots ↔ ∃ root ∈ roots, ReflTransGen (Leads next) root x := by
  refine ⟨reached_of_mem_postorder, ?_⟩
  rw [mem_postorder_iff_seen]
  -- The way is followed from the root, which was seen.
  rintro ⟨root, member, way⟩
  obtain ⟨all, closed⟩ := foldl_complete (visit_extends next room) visit_complete roots ⟨∅, []⟩
    enough
  -- What follows a cell that is seen is seen too.
  induction way with
  | refl => exact all root member
  | tail _ step ih => exact closed _ ih (by simp) _ step

/-- A list falls apart where a member of it comes first. -/
theorem split_takeWhile {path : List CellId} {id : CellId} (member : id ∈ path) :
    ∃ rest, path = path.takeWhile (· ≠ id) ++ id :: rest := by
  -- The list is gone through up to the first occurrence.
  induction path with
  | nil => simp at member
  | cons x path ih =>
    by_cases same : x = id
    · exact ⟨path, by simp [same]⟩
    · obtain ⟨rest, split⟩ := ih (by simpa [Ne.symm same] using member)
      exact ⟨rest, by simpa [same] using split⟩

/-- Closing a path at one of its cells gives a closed walk, if its last cell leads to that cell. -/
theorem closedAt_isCycle {path : List CellId} {last id : CellId}
    (linked : (last :: path).IsChain fun b a => Leads next a b) (member : id ∈ last :: path)
    (back : Leads next last id) : IsCycle (Leads next) (closedAt (last :: path) id) := by
  refine ⟨?_, id, _, rfl⟩
  obtain ⟨rest, split⟩ := split_takeWhile member
  rw [closedAt]
  generalize (last :: path).takeWhile (· ≠ id) = inner at split ⊢
  -- Read backwards, the walk is the path up to the cell, with the cell once more in front.
  rw [split, List.isChain_split] at linked
  have backwards : (id :: (inner ++ [id])).reverse = id :: inner.reverse ++ [id] := by simp
  rw [← backwards, List.isChain_reverse, List.isChain_cons]
  refine ⟨fun y first => ?_, linked.1⟩
  have : y = last := by
    -- The last cell of the path closes the walk, whether anything lies in between or not.
    cases inner with
    | nil =>
      simp only [List.nil_append, List.cons.injEq, List.head?_cons, Option.mem_def,
        Option.some.injEq] at split first
      exact first.symm.trans split.1.symm
    | cons z inner =>
      simp only [List.cons_append, List.cons.injEq, List.head?_cons, Option.mem_def,
        Option.some.injEq] at split first
      exact first.symm.trans split.1.symm
  exact this ▸ back

/-- Closing a path without a repeat gives a walk that meets no cell twice before its end. -/
theorem nodup_closedAt {path : List CellId} (distinct : path.Nodup) (id : CellId) :
    (closedAt path id).dropLast.Nodup := by
  rw [closedAt, List.dropLast_concat, List.nodup_cons, List.nodup_reverse, List.mem_reverse]
  -- The cell itself is not among the ones in front of its first occurrence.
  refine ⟨fun again => ?_, distinct.sublist (List.takeWhile_sublist _)⟩
  simpa using List.mem_takeWhile_imp again

/-- If going through a list fails, then at one of its members. -/
theorem foldlM_error {α β ε : Type} {f : β → α → Except ε β} {xs : List α} {start : β} {e : ε}
    (failed : xs.foldlM f start = .error e) : ∃ x ∈ xs, ∃ b, f b x = .error e := by
  -- The induction is along the list, up to the step that fails.
  induction xs generalizing start with
  | nil => simp [Pure.pure, Except.pure] at failed
  | cons x rest ih =>
    rw [List.foldlM_cons] at failed
    cases first : f start x with
    | error other =>
      simp only [first, Bind.bind, Except.bind, Except.error.injEq] at failed
      exact ⟨x, by simp, start, failed ▸ first⟩
    | ok b =>
      simp only [first, Bind.bind, Except.bind] at failed
      obtain ⟨y, member, found⟩ := ih failed
      exact ⟨y, by simp [member], found⟩

/-- What each step through a list keeps, and what it shows of its member, holds at the end. -/
theorem foldlM_ok {α β ε : Type} {f : β → α → Except ε β} {xs : List α} {start finish : β}
    (Inv : β → Prop) (Shown : α → Prop) (begun : Inv start)
    (done : xs.foldlM f start = .ok finish)
    (each : ∀ x ∈ xs, ∀ b b', Inv b → f b x = .ok b' → Inv b' ∧ Shown x) :
    Inv finish ∧ ∀ x ∈ xs, Shown x := by
  -- The induction is along the list, with the invariant between the steps.
  induction xs generalizing start with
  | nil =>
    simp only [List.foldlM_nil, Pure.pure, Except.pure, Except.ok.injEq] at done
    exact ⟨done ▸ begun, by simp⟩
  | cons x rest ih =>
    rw [List.foldlM_cons] at done
    cases first : f start x with
    | error e => simp [first, Bind.bind, Except.bind] at done
    | ok b =>
      simp only [first, Bind.bind, Except.bind] at done
      obtain ⟨kept, shown⟩ := each x (by simp) start b begun first
      obtain ⟨kept', others⟩ := ih kept done fun y member => each y (by simp [member])
      exact ⟨kept', by simpa using ⟨shown, others⟩⟩

/-- Looks at a cell from the last one of a path: what the search makes of each cell that follows. -/
def heed (next : CellId → List CellId) (room : Nat) (path : List CellId) (seen : CellSet)
    (child : CellId) : Except (List CellId) CellSet :=
  -- The path is looked at before the cells that were seen.
  if child ∈ path then .error (closedAt path child)
  else if child ∈ seen then .ok seen
  else cycleBehind next room path seen child

/-- The cells that follow a cell are looked at one after the other, on a path that ends in the cell. -/
theorem cycleBehind_succ (next : CellId → List CellId) (room : Nat) (path : List CellId)
    (seen : CellSet) (id : CellId) :
    cycleBehind next (room + 1) path seen id =
      (next id).foldlM (heed next room (id :: path)) (seen.insert id) := rfl

/-- Looking at a cell reports the cycle that it closes, or one that is found behind it. -/
theorem heed_eq_error {path : List CellId} {seen : CellSet} {child : CellId} {cycle : List CellId}
    (found : heed next room path seen child = .error cycle) :
    child ∈ path ∧ closedAt path child = cycle ∨
      child ∉ path ∧ cycleBehind next room path seen child = .error cycle := by
  -- The path is looked at first.
  unfold heed at found
  split at found
  · rename_i inside
    exact .inl ⟨inside, Except.error.inj found⟩
  · rename_i off
    split at found
    · simp at found
    · exact .inr ⟨off, found⟩

/-- Looking at a cell off the path reports nothing if it was seen, or if nothing is found behind it. -/
theorem heed_eq_ok {path : List CellId} {seen more : CellSet} {child : CellId}
    (passed : heed next room path seen child = .ok more) :
    child ∉ path ∧ (child ∈ seen ∧ seen = more ∨
      child ∉ seen ∧ cycleBehind next room path seen child = .ok more) := by
  -- Of the three branches one reports, and the two others pass.
  unfold heed at passed
  split at passed
  · simp at passed
  · rename_i off
    split at passed
    · rename_i old
      exact ⟨off, .inl ⟨old, Except.ok.inj passed⟩⟩
    · rename_i new
      exact ⟨off, .inr ⟨new, passed⟩⟩

/-- A search for a cycle forgets no cell that was seen. -/
theorem cycleBehind_grows {path : List CellId} {seen more : CellSet} {id : CellId}
    (passed : cycleBehind next room path seen id = .ok more) : ∀ x ∈ seen, x ∈ more := by
  -- The induction is on the room; each cell that follows is searched with less of it.
  induction room generalizing path seen more id with
  | zero =>
    obtain rfl := Except.ok.inj passed
    exact fun _ member => member
  | succ room ih =>
    rw [cycleBehind_succ] at passed
    have grown : ∀ x ∈ seen.insert id, x ∈ more :=
      (foldlM_ok (fun now => ∀ x ∈ seen.insert id, x ∈ now) (fun _ => True) (fun _ member => member)
        passed (by
          intro child _ now later grown looked
          refine ⟨fun x member => ?_, trivial⟩
          rcases (heed_eq_ok looked).2 with ⟨-, rfl⟩ | ⟨-, behind⟩
          · exact grown x member
          · exact ih behind x (grown x member))).1
    exact fun x member => grown x (by simp [member])

/-- Whatever a search behind a cell reports is a cycle that can be reached from the cell. -/
theorem cycleBehind_error {path : List CellId} {seen : CellSet} {id : CellId} {cycle : List CellId}
    (linked : (id :: path).IsChain fun b a => Leads next a b)
    (found : cycleBehind next room path seen id = .error cycle) :
    IsCycle (Leads next) cycle ∧
      ∃ x, cycle.head? = some x ∧ (x ∈ path ∨ ReflTransGen (Leads next) id x) := by
  -- The induction is on the room, for any path that is linked.
  induction room generalizing path seen id with
  | zero => simp [cycleBehind] at found
  | succ room ih =>
    rw [cycleBehind_succ] at found
    obtain ⟨child, step, seen, found⟩ := foldlM_error found
    rcases heed_eq_error found with ⟨onPath, rfl⟩ | ⟨-, found⟩
    · -- The cell that follows lies on the path, which closes there.
      refine ⟨closedAt_isCycle linked onPath step, child, rfl, ?_⟩
      rcases List.mem_cons.mp onPath with same | member
      · exact .inr (same ▸ .refl)
      · exact .inl member
    · -- The cycle lies behind the cell that follows.
      obtain ⟨closed, x, first, place⟩ := ih (List.isChain_cons_cons.mpr ⟨step, linked⟩) found
      refine ⟨closed, x, first, ?_⟩
      rcases place with member | way
      · rcases List.mem_cons.mp member with same | member
        · exact .inr (same ▸ .refl)
        · exact .inl member
      · exact .inr (.head step way)

/-- Whatever a search behind a path without a repeat reports meets no cell twice before its end. -/
theorem cycleBehind_nodup {path : List CellId} {seen : CellSet} {id : CellId} {cycle : List CellId}
    (distinct : (id :: path).Nodup) (found : cycleBehind next room path seen id = .error cycle) :
    cycle.dropLast.Nodup := by
  -- The induction is on the room, for any path without a repeat.
  induction room generalizing path seen id with
  | zero => simp [cycleBehind] at found
  | succ room ih =>
    rw [cycleBehind_succ] at found
    obtain ⟨child, _, seen, found⟩ := foldlM_error found
    rcases heed_eq_error found with ⟨-, rfl⟩ | ⟨off, found⟩
    · exact nodup_closedAt distinct child
    · -- A cell that is entered is none of the path.
      exact ih (List.nodup_cons.mpr ⟨off, distinct⟩) found

/-- Every walk ends from the cells that were seen, those of a path left out. -/
def Settled (next : CellId → List CellId) (path : List CellId) (seen : CellSet) : Prop :=
  -- The cells of the path are still being searched.
  ∀ x ∈ seen, x ∉ path → Terminates (Leads next) x

/-- With enough room, a search that reports nothing has shown that every walk it met ends. -/
theorem cycleBehind_ok {path : List CellId} {seen more : CellSet} {id : CellId}
    (enough : Roomy next room seen) (unseen : id ∉ seen) (settled : Settled next path seen)
    (passed : cycleBehind next room path seen id = .ok more) :
    (∀ x ∈ seen, x ∈ more) ∧ id ∈ more ∧ Settled next path more := by
  -- The induction is on the room, with the cells of the path still unsettled.
  induction room generalizing path seen more id with
  | zero => exact absurd enough (by simp [Roomy])
  | succ room ih =>
    rw [cycleBehind_succ] at passed
    -- While the cells that follow are searched, only the path itself is unsettled.
    have entered : Settled next (id :: path) (seen.insert id) := by
      intro x member off
      simp only [List.mem_cons, not_or] at off
      exact settled x (by simpa [Ne.symm off.1] using member) off.2
    obtain ⟨⟨grown, others⟩, children⟩ := foldlM_ok
      (fun now => (∀ x ∈ seen.insert id, x ∈ now) ∧ Settled next (id :: path) now)
      (Terminates (Leads next)) ⟨fun x member => member, entered⟩ passed (by
        rintro child step now later ⟨grown, others⟩ looked
        obtain ⟨off, ⟨old, rfl⟩ | ⟨new, passed⟩⟩ := heed_eq_ok looked
        · exact ⟨⟨grown, others⟩, others child old off⟩
        · have lessRoom : Roomy next room now :=
            (enough.enter unseen (List.ne_nil_of_mem step)).mono grown
          obtain ⟨more, here, settled⟩ := ih lessRoom new others passed
          exact ⟨⟨fun x member => more x (grown x member), settled⟩, settled child here off⟩)
    refine ⟨fun x old => grown x (by simp [old]), grown id (by simp), fun x member off => ?_⟩
    -- Every walk from the cell goes on through one of the cells that follow it.
    by_cases same : x = id
    · exact same ▸ Acc.intro id children
    · exact others x member (by simp [same, off])

/-- A cycle that is found is one, and can be reached from the start. -/
theorem cycle?_eq_some {start : CellId} {cycle : List CellId}
    (found : cycle? next room start = some cycle) :
    IsCycle (Leads next) cycle ∧
      ∃ x, cycle.head? = some x ∧ ReflTransGen (Leads next) start x := by
  -- The search sets out on the start alone.
  unfold cycle? at found
  split at found
  · rename_i reported
    obtain rfl := Option.some.inj found
    obtain ⟨closed, x, first, place⟩ := cycleBehind_error (List.isChain_singleton _) reported
    exact ⟨closed, x, first, by simpa using place⟩
  · simp at found

/-- A cycle that is found meets no cell twice before its end. -/
theorem cycle?_nodup {start : CellId} {cycle : List CellId}
    (found : cycle? next room start = some cycle) : cycle.dropLast.Nodup := by
  unfold cycle? at found
  split at found
  · rename_i reported
    exact Option.some.inj found ▸ cycleBehind_nodup (List.nodup_singleton start) reported
  · simp at found

/-- With enough room, every walk from the start ends if no cycle is found. -/
theorem terminates_of_cycle?_eq_none {start : CellId} (enough : Roomy next room ∅)
    (none : cycle? next room start = none) : Terminates (Leads next) start := by
  -- The search has passed the start, so the start is settled.
  unfold cycle? at none
  split at none
  · simp at none
  · rename_i passed
    obtain ⟨_, here, settled⟩ := cycleBehind_ok enough (by simp) (by simp [Settled]) passed
    exact settled start here (by simp)

end Spreadsheet.Search
