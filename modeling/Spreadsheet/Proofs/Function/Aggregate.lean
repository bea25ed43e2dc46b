import Mathlib.Algebra.BigOperators.Group.List.Basic
import Mathlib.Data.List.Perm.Basic
import Mathlib.Order.Lattice
import Spreadsheet.Function.Builtin
import Spreadsheet.Proofs.Function.Argument

/-!
Aggregates of exact values. They are those of the whole numbers that the values are read as, so neither
the order of the values nor the lists in which they stand matter.
-/

namespace Spreadsheet

namespace Number

/-- The sum of whole numbers is exact. -/
theorem sum_whole (ns : List ℤ) : sum (ns.map whole) = .ok (whole ns.sum) := by
  -- The induction is along the numbers, for any sum of those before.
  have from_total : ∀ total, (ns.map whole).foldlM add (whole total) = .ok (whole (total + ns.sum)) := by
    induction ns with
    | nil =>
      intro total
      rw [List.map_nil, List.foldlM_nil, List.sum_nil, add_zero]
      rfl
    | cons n rest ih =>
      intro total
      rw [List.map_cons, List.foldlM_cons, List.sum_cons, ← add_assoc]
      exact ih (total + n)
  rw [sum, from_total, zero_add]

/-- The smaller of two whole numbers. -/
theorem least_whole (m n : ℤ) : least (whole m) (whole n) = whole (min m n) := by
  -- The comparison is that of the whole numbers.
  rw [least, below_whole]
  rcases lt_or_ge n m with below | above
  · rw [if_pos (decide_eq_true below), min_eq_right below.le]
  · rw [if_neg (by simpa using above), min_eq_left above]

/-- The larger of two whole numbers. -/
theorem greatest_whole (m n : ℤ) : greatest (whole m) (whole n) = whole (max m n) := by
  -- The comparison is that of the whole numbers.
  rw [greatest, below_whole]
  rcases lt_or_ge m n with below | above
  · rw [if_pos (decide_eq_true below), max_eq_right below.le]
  · rw [if_neg (by simpa using above), max_eq_left above]

end Number

namespace Aggregate

open Value (AllExact wholes leavesOfAll)

variable {vs ws : List Value}

/-- The sum of exact values is that of their whole numbers. -/
theorem sum_of_exact (exact : AllExact vs) : sum vs = .ok (.whole (wholes vs).sum) := by
  -- The values are read as whole numbers, whose sum needs no rounding and no normalizing.
  rw [sum, Argument.numbers_of_exact exact]
  show (liftM (Number.sum _) >>= fun total => pure (.number total.normalize) : Except Failure Value) = _
  rw [Number.sum_whole]
  rfl

/-- As many exact values count as are read as whole numbers. -/
theorem count_of_exact (exact : AllExact vs) : count vs = .ok (.whole (wholes vs).length) := by
  -- Every value that is read counts once.
  rw [count, Argument.numbers_of_exact exact]
  show Except.ok (Value.whole ((wholes vs).map Number.whole).length) = _
  rw [List.length_map]

/-- Exact values that fill a cell are those that are read as whole numbers. -/
theorem countFilled_of_exact (exact : AllExact vs) :
    countFilled vs = .ok (.whole (wholes vs).length) := by
  -- Nothing is neither filled nor read as a number, whatever else is exact is both.
  have same : ∀ leaf ∈ leavesOfAll vs, isFilled leaf = leaf.whole?.isSome := by
    intro leaf member
    cases exact leaf member <;> rfl
  rw [countFilled, wholes, List.length_filterMap_eq_countP,
    List.countP_congr fun leaf member => by rw [same leaf member]]

/-- What survives among exact values is what survives among their whole numbers. -/
theorem survivor_of_exact {better : Number → Number → Number} {choose : ℤ → ℤ → ℤ}
    (chooses : ∀ m n, better (.whole m) (.whole n) = .whole (choose m n)) (exact : AllExact vs) :
    survivor better vs = .ok (.whole (match wholes vs with
      | [] => 0
      | n :: rest => rest.foldl choose n)) := by
  -- By induction on the numbers behind the first, for any survivor of those before.
  have survives : ∀ (rest : List ℤ) (n : ℤ),
      (rest.map Number.whole).foldl better (.whole n) = .whole (rest.foldl choose n) := by
    intro rest
    induction rest with
    | nil => exact fun n => rfl
    | cons m rest ih =>
      intro n
      rw [List.map_cons, List.foldl_cons, List.foldl_cons, chooses, ih]
  rw [survivor, Argument.numbers_of_exact exact]
  cases wholes vs with
  | nil => rfl
  | cons n rest =>
    show Except.ok (Value.number ((rest.map Number.whole).foldl better (.whole n))) = _
    rw [survives]

/-- The smallest of exact values is that of their whole numbers, zero if there are none. -/
theorem least_of_exact (exact : AllExact vs) : least vs = .ok (.whole ((wholes vs).min?.getD 0)) := by
  -- Without any number zero is given, and otherwise the first one is where the fold begins.
  rw [least, survivor_of_exact Number.least_whole exact]
  cases wholes vs with
  | nil => rfl
  | cons n rest => rw [List.min?_cons', Option.getD_some]

/-- The largest of exact values is that of their whole numbers, zero if there are none. -/
theorem greatest_of_exact (exact : AllExact vs) :
    greatest vs = .ok (.whole ((wholes vs).max?.getD 0)) := by
  -- Without any number zero is given, and otherwise the first one is where the fold begins.
  rw [greatest, survivor_of_exact Number.greatest_whole exact]
  cases wholes vs with
  | nil => rfl
  | cons n rest => rw [List.max?_cons', Option.getD_some]

/-- The least of some whole numbers is the same in any order. -/
theorem min?_eq_of_perm {ms ns : List ℤ} (perm : ms.Perm ns) : ms.min? = ns.min? := by
  -- Being the least is a matter of membership and comparison.
  ext m
  simp only [List.min?_eq_some_iff, perm.mem_iff]

/-- The greatest of some whole numbers is the same in any order. -/
theorem max?_eq_of_perm {ms ns : List ℤ} (perm : ms.Perm ns) : ms.max? = ns.max? := by
  -- Being the greatest is a matter of membership and comparison.
  ext m
  simp only [List.max?_eq_some_iff, perm.mem_iff]

/-- The aggregates that are exact on exact values. -/
def exactOnes : List Builtin := [.sum, .statTotal, .count, .counta, .min, .max]

/-- What an aggregate makes of whole numbers. -/
def ofWholes (ns : List ℤ) : Builtin → ℤ
  -- Without numbers all of them are zero.
  | .sum | .statTotal => ns.sum
  | .count | .counta => ns.length
  | .min => ns.min?.getD 0
  | .max => ns.max?.getD 0
  | _ => 0

/-- Aggregates of exact values are those of their whole numbers. -/
theorem apply_of_exact (exact : AllExact vs) {f : Builtin} (member : f ∈ exactOnes) :
    f.apply vs = .ok (.whole (ofWholes (wholes vs) f)) := by
  simp only [exactOnes, List.mem_cons, List.not_mem_nil, or_false] at member
  rcases member with rfl | rfl | rfl | rfl | rfl | rfl
  · exact sum_of_exact exact
  · exact sum_of_exact exact
  · exact count_of_exact exact
  · exact countFilled_of_exact exact
  · exact least_of_exact exact
  · exact greatest_of_exact exact

/-- Aggregates of whole numbers are the same in any order. -/
theorem ofWholes_perm {ms ns : List ℤ} (perm : ms.Perm ns) (f : Builtin) :
    ofWholes ms f = ofWholes ns f := by
  -- Sums, lengths, least and greatest numbers do not depend on the order.
  unfold ofWholes
  split
  · exact perm.sum_eq
  · exact perm.sum_eq
  · rw [perm.length_eq]
  · rw [perm.length_eq]
  · rw [min?_eq_of_perm perm]
  · rw [max?_eq_of_perm perm]
  · rfl

/-- Exact values in another order have the same aggregates. -/
theorem exists_same (exact : AllExact vs) (exact' : AllExact ws)
    (perm : (leavesOfAll vs).Perm (leavesOfAll ws)) {f : Builtin} (member : f ∈ exactOnes) :
    ∃ n : ℤ, f.apply vs = .ok (.whole n) ∧ f.apply ws = .ok (.whole n) := by
  -- What is read from the leaves is read from them in the other order.
  have same : ofWholes (wholes vs) f = ofWholes (wholes ws) f := ofWholes_perm (perm.filterMap _) f
  refine ⟨_, apply_of_exact exact member, ?_⟩
  rw [same]
  exact apply_of_exact exact' member

/-- Sums and counts of exact values that are joined are those of the parts together. -/
theorem exists_joined (exact : AllExact vs) (exact' : AllExact ws) {f : Builtin}
    (additive : f ∈ [Builtin.sum, Builtin.count]) :
    ∃ m n : ℤ, f.apply vs = .ok (.whole m) ∧ f.apply ws = .ok (.whole n) ∧
      f.apply (vs ++ ws) = .ok (.whole (m + n)) := by
  simp only [List.mem_cons, List.not_mem_nil, or_false] at additive
  rcases additive with rfl | rfl
  · -- The whole numbers of joined lists are those of the first behind those of the second.
    refine ⟨_, _, sum_of_exact exact, sum_of_exact exact', ?_⟩
    rw [Builtin.apply, sum_of_exact (exact.append exact'), Value.wholes_append, List.sum_append]
  · refine ⟨_, _, count_of_exact exact, count_of_exact exact', ?_⟩
    rw [Builtin.apply, count_of_exact (exact.append exact'), Value.wholes_append, List.length_append,
      Nat.cast_add]

/--
Six aggregates of values that are exact, in lists of any depth. Each gives the same whole number for
the same values in any other order and in any other lists. It is what the aggregate makes of the
whole numbers that the values are read as, for the sum their exact sum. Sums and counts of two lists
that are joined are those of the two lists together.
-/
theorem exact_rearranged (exact : AllExact vs) (exact' : AllExact ws) :
    ((leavesOfAll vs).Perm (leavesOfAll ws) → ∀ f ∈ exactOnes, ∃ n : ℤ,
      f.apply vs = .ok (.whole n) ∧ f.apply ws = .ok (.whole n)) ∧
    (∀ f ∈ exactOnes, f.apply vs = .ok (.whole (ofWholes (wholes vs) f))) ∧
    ∀ f ∈ [Builtin.sum, Builtin.count], ∃ m n : ℤ, f.apply vs = .ok (.whole m) ∧
      f.apply ws = .ok (.whole n) ∧ f.apply (vs ++ ws) = .ok (.whole (m + n)) :=
  ⟨fun perm _ => exists_same exact exact' perm, fun _ => apply_of_exact exact,
    fun _ => exists_joined exact exact'⟩

/-- A list with a number and a truth value, and nothing beside it. -/
def pair : List Value := [.list [.whole (2 ^ 80), .truth true], .blank]

/-- The same three values otherwise: the truth value alone, and the others in lists inside of a list. -/
def nested : List Value := [.truth true, .list [.list [.blank], .list [.list [], .whole (2 ^ 80)]]]

/-- Three values in two orders and in different lists: their sum is the same, and exact. -/
theorem exact_rearranged_nested : AllExact pair ∧ AllExact nested ∧
    (leavesOfAll pair).Perm (leavesOfAll nested) ∧ Builtin.max ∈ exactOnes ∧
    (∃ n : ℤ, Builtin.max.apply pair = .ok (.whole n) ∧ Builtin.max.apply nested = .ok (.whole n)) ∧
    Builtin.sum.apply pair = .ok (.whole (2 ^ 80 + 1)) := by
  -- The only leaves are the number, the truth value and nothing.
  have exact : AllExact pair := by
    intro leaf member
    simp only [pair, leavesOfAll, Value.leaves, List.cons_append, List.nil_append, List.mem_cons,
      List.not_mem_nil, or_false] at member
    rcases member with rfl | rfl | rfl
    · exact .whole _
    · exact .truth true
    · exact .blank
  -- The truth value was moved to the front.
  have perm : (leavesOfAll pair).Perm (leavesOfAll nested) :=
    @List.perm_append_comm Value [.whole (2 ^ 80)] [.truth true, .blank]
  have exact' : AllExact nested := fun leaf member => exact leaf (perm.mem_iff.mpr member)
  have all := exact_rearranged exact exact'
  exact ⟨exact, exact', perm, by decide, all.1 perm .max (by decide), all.2.1 .sum (by decide)⟩

end Aggregate
end Spreadsheet
