import Mathlib.Data.List.Count
import Mathlib.Order.Bounds.Defs
import Spreadsheet.Function.Builtin
import Spreadsheet.Proofs.Function.Argument

/-!
The number that is met most often. A tally counts what it has seen, and its leader is the number that was
the first to reach the highest count.
-/

namespace Spreadsheet.Statistics

variable {xs ys : List ℤ} {x n : ℤ} {k i : ℕ}

/-- The occurrence of a number that is the `k`-th one, from one on, stands at a place of a list. -/
def Occurs (xs : List ℤ) (x : ℤ) (k i : ℕ) : Prop :=
  -- The number stands there, and in front of it one time less.
  xs[i]? = some x ∧ (xs.take i).count x + 1 = k

/-- The `k`-th occurrence of a number stands at a place, and no number has its `k`-th one before it. -/
def First (xs : List ℤ) (x : ℤ) (k i : ℕ) : Prop :=
  -- No two numbers share a place, so the number is the only one of this kind.
  Occurs xs x k i ∧ ∀ y j, Occurs xs y k j → i ≤ j

namespace Occurs

/-- Occurrences stand inside of the list. -/
theorem lt_length (occurs : Occurs xs x k i) : i < xs.length :=
  (List.getElem?_eq_some_iff.mp occurs.1).1

/-- A number with a `k`-th occurrence has as many of them. -/
theorem le_count (occurs : Occurs xs x k i) : k ≤ xs.count x := by
  obtain ⟨inside, same⟩ := List.getElem?_eq_some_iff.mp occurs.1
  -- Up to and with its place the number is counted once more.
  have before : (xs.take (i + 1)).count x = (xs.take i).count x + 1 := by
    rw [List.take_succ_eq_append_getElem inside, same, List.count_append, List.count_singleton_self]
  rw [← occurs.2, ← before]
  exact (List.take_sublist _ _).count_le x

/-- Occurrences do not depend on what follows. -/
theorem append_iff (inside : i < xs.length) : Occurs (xs ++ ys) x k i ↔ Occurs xs x k i := by
  -- In front of the place nothing follows yet.
  rw [Occurs, Occurs, List.getElem?_append_left inside, List.take_append_of_le_length inside.le]

/-- A number that follows a list occurs once more than in the list. -/
theorem last (xs : List ℤ) (n : ℤ) : Occurs (xs ++ [n]) n (xs.count n + 1) xs.length := by
  rw [Occurs, List.getElem?_concat_length, List.take_left]
  exact ⟨rfl, rfl⟩

end Occurs

/-- A number that reaches a count for the first time is the first to do so. -/
theorem First.last (most : ∀ y, xs.count y ≤ xs.count n) :
    First (xs ++ [n]) n (xs.count n + 1) xs.length := by
  refine ⟨Occurs.last xs n, fun y j occurs => ?_⟩
  by_contra inside
  -- Inside of the list no number occurs so often.
  have reached := ((Occurs.append_iff (not_le.mp inside)).mp occurs).le_count
  have bound := most y
  omega

/-- The first number to reach a count remains the first. -/
theorem First.append (first : First xs x k i) (ys : List ℤ) : First (xs ++ ys) x k i := by
  have inside := first.1.lt_length
  refine ⟨(Occurs.append_iff inside).mpr first.1, fun y j occurs => ?_⟩
  -- A place behind the list is later than any in it.
  rcases Nat.lt_or_ge j xs.length with within | beyond
  · exact first.2 y j ((Occurs.append_iff within).mp occurs)
  · exact (inside.trans_le beyond).le

namespace Tally

/--
A tally has seen the numbers of a list: it has their counts, the highest of these, and the number
that reached it first, if there is any number.
-/
structure Seen (tally : Tally) (xs : List ℤ) : Prop where
  count (n : ℤ) : tally.countOf (.whole n) = xs.count n
  most (n : ℤ) : xs.count n ≤ tally.highest
  leads : xs = [] ∧ tally.leader = none ∧ tally.highest = 0 ∨
    ∃ x i, tally.leader = some (.whole x) ∧ First xs x tally.highest i

variable {tally : Tally}

/-- Whole numbers are alike if they are the same. -/
theorem alike_whole (m n : ℤ) : (Number.whole m).alike (.whole n) = decide (m = n) := by
  -- Only a comparison with a double would convert.
  rw [Number.alike, Number.same_whole]
  exact nofun

/-- Seeing a number raises its count and no other one. -/
theorem countOf_see (tally : Tally) (m n : ℤ) : (tally.see (.whole m)).countOf (.whole n) =
    tally.countOf (.whole n) + if m = n then 1 else 0 := by
  -- Both branches count the number in the same way.
  have counts : (tally.see (.whole m)).counts =
      (.whole m, tally.countOf (.whole m) + 1) :: tally.counts := by
    rw [see]
    split <;> rfl
  rw [countOf, counts, List.find?_cons, alike_whole]
  -- The new entry is found first, and only by its own number.
  by_cases same : m = n
  · rw [decide_eq_true same, if_pos same, same]
  · rw [decide_eq_false same, if_neg same]
    rfl

/-- A tally that has seen nothing. -/
theorem seen_empty : Seen empty [] := ⟨fun _ => rfl, fun _ => Nat.le_refl 0, .inl ⟨rfl, rfl, rfl⟩⟩

/-- A tally that sees one more number has seen the numbers before and this one. -/
theorem Seen.see (seen : Seen tally xs) (n : ℤ) : Seen (tally.see (.whole n)) (xs ++ [n]) := by
  -- Behind the list the number is counted once more, and every other one as before.
  have counts : ∀ m, (xs ++ [n]).count m = xs.count m + if n = m then 1 else 0 := by
    intro m
    rw [List.count_append, List.count_singleton]
    simp
  have count : ∀ m, (tally.see (.whole n)).countOf (.whole m) = (xs ++ [n]).count m := by
    intro m
    rw [countOf_see, seen.count, counts]
  -- The tally follows the new count: it either passes the highest one or does not.
  have most := seen.most n
  by_cases higher : tally.highest < xs.count n + 1
  · -- The number had the highest count already and now passes it.
    have reached : tally.highest = xs.count n := by omega
    have leads : tally.see (.whole n) =
        ⟨(.whole n, xs.count n + 1) :: tally.counts, some (.whole n), xs.count n + 1⟩ := by
      rw [Tally.see, seen.count]
      exact if_pos higher
    refine ⟨count, fun m => ?_, .inr ⟨n, xs.length, ?_⟩⟩
    · -- No other count is higher than the one that was reached.
      have before := seen.most m
      rw [counts, leads]
      dsimp only
      split <;> omega
    · rw [leads]
      exact ⟨rfl, .last fun m => reached ▸ seen.most m⟩
  · -- Another number stays in front.
    have stays : tally.see (.whole n) =
        { tally with counts := (.whole n, xs.count n + 1) :: tally.counts } := by
      rw [Tally.see, seen.count]
      exact if_neg higher
    refine ⟨count, fun m => ?_, ?_⟩
    · have before := seen.most m
      rw [counts, stays]
      dsimp only
      split
      · rename_i same
        subst same
        omega
      · exact before
    · rw [stays]
      -- With no number before, the new one would have been higher.
      rcases seen.leads with ⟨-, -, none⟩ | ⟨x, i, leads, first⟩
      · exact absurd none (by omega)
      · exact .inr ⟨x, i, leads, first.append [n]⟩

/-- A tally that sees some more numbers has seen the numbers before and these. -/
theorem Seen.foldl (seen : Seen tally xs) (ns : List ℤ) :
    Seen ((ns.map .whole).foldl Tally.see tally) (xs ++ ns) := by
  -- The induction is along the numbers, for any tally of those before.
  induction ns generalizing tally xs with
  | nil => simpa using seen
  | cons n rest ih =>
    -- The first number is seen, and then the others in the same way.
    have next := ih (seen.see n)
    rw [List.append_assoc, List.singleton_append] at next
    exact next

/-- The highest count of a tally is the greatest of all counts. -/
theorem Seen.isGreatest (seen : Seen tally xs) : IsGreatest (Set.range xs.count) tally.highest := by
  refine ⟨?_, ?_⟩
  · -- The highest count is that of some number, or zero without any.
    rcases seen.leads with ⟨rfl, -, none⟩ | ⟨x, i, -, first⟩
    · exact ⟨0, none.symm⟩
    · exact ⟨x, (seen.most x).antisymm first.1.le_count⟩
  · rintro _ ⟨n, rfl⟩
    exact seen.most n

end Tally

open Value (AllExact wholes)

/-- The leader of a tally, if it was met more than once. -/
def Tally.repeated (tally : Tally) : Value :=
  -- Without numbers there is no leader.
  match tally.leader with
  | some n => if 1 < tally.highest then .number n else .blank
  | none => .blank

/-- The mode of exact values is the leader of a tally of their whole numbers. -/
theorem mode_of_exact {vs : List Value} (exact : AllExact vs) :
    ∃ tally : Tally, tally.Seen (wholes vs) ∧ Builtin.mode.apply vs = .ok tally.repeated := by
  have leader (tally : Tally) : (match tally.leader with
      | some n => return if 1 < tally.highest then .number n else .blank
      | none => return .blank : Except Failure Value) = .ok tally.repeated := by
    rw [Tally.repeated]
    -- The tally is given as having a leader or none.
    cases tally.leader <;> rfl
  refine ⟨_, Tally.seen_empty.foldl (wholes vs), ?_⟩
  rw [Builtin.apply, mode, Argument.numbers_of_exact exact]
  exact leader _

/--
The mode of exact values, in lists of any depth. Let some number occur most often among the whole
numbers that the values are read as, with `k` occurrences. If these are two or more, the mode is the
number whose `k`-th occurrence comes first of all. Otherwise, and without any number, there is none.
-/
theorem mode_first {vs : List Value} (exact : AllExact vs) : ∃ k,
    IsGreatest (Set.range (wholes vs).count) k ∧
    (2 ≤ k → ∃ x i, First (wholes vs) x k i ∧ Builtin.mode.apply vs = .ok (.whole x)) ∧
    (k < 2 → Builtin.mode.apply vs = .ok .blank) := by
  -- What the tally has seen are the numbers that the values are read as.
  obtain ⟨tally, seen, result⟩ := mode_of_exact exact
  rw [result, Tally.repeated]
  refine ⟨tally.highest, seen.isGreatest, fun often => ?_, fun once => ?_⟩
  · -- Counted twice, there is a number, and it leads.
    rcases seen.leads with ⟨-, -, none⟩ | ⟨x, i, leads, first⟩
    · omega
    · rw [leads]
      exact ⟨x, i, first, congrArg Except.ok (if_pos often)⟩
  · -- A count below two gives no mode, with or without a leader.
    cases tally.leader with
    | none => rfl
    | some n => exact congrArg Except.ok (if_neg (by omega))

/-- One and two, each of them twice: one is met first, but two is the first to be met again. -/
def crossed : List Value := [.list [.whole 1, .whole 2], .blank, .whole 2, .truth true]

example : Builtin.mode.apply crossed = .ok (.whole 2) := rfl

/-- Numbers that occur twice have a mode, and it is the first one to do so. -/
theorem mode_first_crossed : AllExact crossed ∧ ∃ k,
    IsGreatest (Set.range (wholes crossed).count) k ∧ 2 ≤ k ∧
    ∃ x i, First (wholes crossed) x k i ∧ Builtin.mode.apply crossed = .ok (.whole x) := by
  have exact : AllExact crossed := by
    intro leaf member
    simp only [crossed, Value.leavesOfAll, Value.leaves, List.cons_append, List.nil_append,
      List.mem_cons, List.not_mem_nil, or_false] at member
    rcases member with rfl | rfl | rfl | rfl | rfl
    · exact .whole 1
    · exact .whole 2
    · exact .blank
    · exact .whole 2
    · exact .truth true
  obtain ⟨k, greatest, often, -⟩ := mode_first exact
  -- The number two is met twice.
  have twice : 2 ≤ k := greatest.2 ⟨2, rfl⟩
  exact ⟨exact, k, greatest, twice, often twice⟩

end Spreadsheet.Statistics
