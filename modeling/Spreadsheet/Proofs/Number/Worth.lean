import Mathlib.Algebra.Order.Field.Power
import Mathlib.Data.Rat.Floor
import Mathlib.Order.Compare
import Spreadsheet.Proofs.Number.Double

/-!
What numbers are worth as rational numbers, and what comparing, flooring and normalizing numbers says
about it.
-/

namespace Spreadsheet.Double

namespace Exact

/-- A finite value is worth a rational number. -/
def Worth (v : Exact) (q : ℚ) : Prop := ∃ s e : ℤ, v = finite s e ∧ q = s * 2 ^ e

variable {a b : Exact} {p q : ℚ}

/-- A value is worth one number alone. -/
theorem Worth.unique (worth : a.Worth p) (worth' : a.Worth q) : p = q := by
  -- The significand and the exponent of a value are given with it.
  obtain ⟨s, e, rfl, rfl⟩ := worth
  obtain ⟨t, d, same, rfl⟩ := worth'
  cases same
  rfl

/-- A shift to the left multiplies by a power of two. -/
theorem natCast_one_shiftLeft {n : ℤ} (nonneg : 0 ≤ n) : ((1 <<< n.toNat : Nat) : ℚ) = 2 ^ n := by
  rw [Nat.one_shiftLeft, Nat.cast_pow, Nat.cast_ofNat, ← zpow_natCast, Int.toNat_of_nonneg nonneg]

/-- A number counted at a lower place is worth the same. -/
theorem intCast_mul_shiftLeft (s : ℤ) {e place : ℤ} (low : place ≤ e) :
    ((s * (1 <<< (e - place).toNat : Nat) : ℤ) : ℚ) * 2 ^ place = s * 2 ^ e := by
  rw [Int.cast_mul, Int.cast_natCast, natCast_one_shiftLeft (sub_nonneg.mpr low), mul_assoc,
    ← zpow_add₀ two_ne_zero, sub_add_cancel]

/-- Values compare as what they are worth does. -/
theorem compare?_of_worth (worth : a.Worth p) (worth' : b.Worth q) :
    a.compare? b = some (cmp p q) := by
  obtain ⟨s, e, rfl, rfl⟩ := worth
  obtain ⟨t, d, rfl, rfl⟩ := worth'
  -- Counting at the finer of the two places leaves the order as it is.
  have scale : StrictMono fun n : ℤ => (n : ℚ) * 2 ^ (min e d) := fun m n below =>
    mul_lt_mul_of_pos_right (Int.cast_lt.mpr below) (by positivity)
  rw [compare?, ← intCast_mul_shiftLeft s (min_le_left e d),
    ← intCast_mul_shiftLeft t (min_le_right e d), scale.cmp_map_eq, cmp_eq_compare]

/-- The floor of a finite value is that of what it is worth. -/
theorem floor_eq (s e : ℤ) : floor s e = ⌊(s : ℚ) * 2 ^ e⌋ := by
  -- With an exponent that is not negative the value is whole.
  rw [floor]
  split
  · rename_i nonneg
    rw [← natCast_one_shiftLeft nonneg, ← Int.cast_natCast (R := ℚ), ← Int.cast_mul,
      Int.floor_intCast]
  · -- With a negative one the value is a quotient, whose floor is the whole part of the division.
    rename_i negative
    have shift : (2 : ℚ) ^ e = ((1 <<< (-e).toNat : Nat) : ℚ)⁻¹ := by
      rw [natCast_one_shiftLeft (by omega), zpow_neg, inv_inv]
    rw [shift, ← div_eq_mul_inv, Rat.floor_intCast_div_natCast,
      Int.fdiv_eq_ediv_of_nonneg _ (Int.natCast_nonneg _)]

end Exact

/-- A double is worth a rational number. -/
abbrev Worth (x : Float) (q : ℚ) : Prop := (exact x).Worth q

end Spreadsheet.Double

namespace Spreadsheet.Number

/-- A number is worth a rational number. -/
abbrev Worth (a : Number) (q : ℚ) : Prop := a.exact.Worth q

variable {a b : Number} {x : Float} {p q : ℚ} {n : ℤ}

/-- A whole number is worth itself. -/
theorem worth_whole (n : ℤ) : (whole n).Worth n := ⟨n, 0, rfl, by simp⟩

/-- Numbers compare as what they are worth does. -/
theorem compare?_of_worth (worth : a.Worth p) (worth' : b.Worth q) :
    a.compare? b = some (cmp p q) := Double.Exact.compare?_of_worth worth worth'

/-- Numbers are the same if they are worth the same. -/
theorem same_of_worth (worth : a.Worth p) (worth' : b.Worth q) : a.same b = decide (p = q) := by
  -- Two numbers compare as equal exactly if neither is more than the other.
  rw [same, compare?_of_worth worth worth', Bool.eq_iff_iff, beq_iff_eq, Option.some_inj,
    cmp_eq_eq_iff, decide_eq_true_iff]

/-- A number is below another if it is worth less. -/
theorem below_of_worth (worth : a.Worth p) (worth' : b.Worth q) : a.below b = decide (p < q) := by
  rw [below, compare?_of_worth worth worth', Bool.eq_iff_iff, beq_iff_eq, Option.some_inj,
    cmp_eq_lt_iff, decide_eq_true_iff]

/-- A number is at most another if it is worth no more. -/
theorem atMost_of_worth (worth : a.Worth p) (worth' : b.Worth q) :
    a.atMost b = decide (p ≤ q) := by
  -- At most means below or the same.
  rw [atMost, below_of_worth worth worth', same_of_worth worth worth', ← Bool.decide_or]
  simp only [le_iff_lt_or_eq]

/-- Whole numbers are the same as they are alike. -/
theorem same_whole (m n : ℤ) : (whole m).same (whole n) = decide (m = n) := by
  rw [same_of_worth (worth_whole m) (worth_whole n)]
  simp only [Int.cast_inj]

/-- A whole number is below another one as it is less. -/
theorem below_whole (m n : ℤ) : (whole m).below (whole n) = decide (m < n) := by
  rw [below_of_worth (worth_whole m) (worth_whole n)]
  simp only [Int.cast_lt]

/-- A whole number is at most another one as it is no more. -/
theorem atMost_whole (m n : ℤ) : (whole m).atMost (whole n) = decide (m ≤ n) := by
  rw [atMost_of_worth (worth_whole m) (worth_whole n)]
  simp only [Int.cast_le]

/-- The floor of a number is that of what it is worth. -/
theorem floor_of_worth (worth : a.Worth q) : a.floor = .ok ⌊q⌋ := by
  -- Only finite values have a worth, and the floor is computed for those.
  obtain ⟨s, e, finite, rfl⟩ := worth
  rw [floor, finite, ← Double.Exact.floor_eq]

/-- A number with a floor is worth something. -/
theorem exists_worth_of_floor (done : a.floor = .ok n) : ∃ q, a.Worth q ∧ n = ⌊q⌋ := by
  -- Infinities and NaN have no floor.
  unfold floor at done
  split at done
  · rename_i s e finite
    cases done
    exact ⟨_, ⟨s, e, finite, rfl⟩, Double.Exact.floor_eq s e⟩
  · cases done
  · cases done

/-- A double that is worth a whole number stands for it. -/
theorem wholeOfFloat?_of_worth (worth : Double.Worth x n) : wholeOfFloat? x = some n := by
  -- The double is compared with its floor, which is the whole number itself.
  obtain ⟨s, e, finite, value⟩ := id worth
  have same : (whole n).same (float x) = true := by
    rw [same_of_worth (worth_whole n) (show (float x).Worth n from worth)]
    exact decide_eq_true rfl
  have floor : Double.Exact.floor s e = n := by
    rw [Double.Exact.floor_eq, ← value, Int.floor_intCast]
  rw [wholeOfFloat?, finite]
  dsimp only
  rw [floor, if_pos same]

/-- A double that stands for a whole number is worth it. -/
theorem worth_of_wholeOfFloat? (stands : wholeOfFloat? x = some n) : Double.Worth x n := by
  -- What the double is said to stand for was compared with it, and found to be the same.
  unfold wholeOfFloat? at stands
  split at stands
  · rename_i s e finite
    dsimp only at stands
    split at stands
    · rename_i same
      cases stands
      have worth : Double.Worth x (s * 2 ^ e) := ⟨s, e, finite, rfl⟩
      rw [same_of_worth (worth_whole _) (show (float x).Worth _ from worth),
        decide_eq_true_iff] at same
      rw [same]
      exact worth
    · cases stands
  · cases stands

/-- Normalizing keeps what a number is worth. -/
theorem normalize_worth (worth : a.Worth q) : a.normalize.Worth q := by
  -- Only a double that stands for a whole number is replaced, and that is worth the same.
  unfold normalize
  split
  · exact worth
  · split
    · rename_i x n stands
      rw [show q = n from worth.unique (worth_of_wholeOfFloat? stands)]
      exact worth_whole n
    · exact worth
  · exact worth

/-- A number that is worth a whole number is normalized to it. -/
theorem normalize_of_worth (worth : a.Worth n) : a.normalize = whole n := by
  -- A whole number stays, a double stands for the number, and NaN is worth nothing.
  unfold normalize
  split
  · rename_i m
    exact congrArg whole (Int.cast_injective (worth_whole m |>.unique worth))
  · rw [wholeOfFloat?_of_worth worth]
  · obtain ⟨s, e, finite, -⟩ := worth
    cases finite

/-- A double that is normalized to a whole number is worth it. -/
theorem worth_of_normalize (same : (float x).normalize = whole n) : Double.Worth x n := by
  dsimp only [normalize] at same
  split at same
  · rename_i m stands
    cases same
    exact worth_of_wholeOfFloat? stands
  · cases same

/-- A whole number is its own floor. -/
theorem floor_whole (n : ℤ) : (whole n).floor = .ok n := by
  rw [floor_of_worth (worth_whole n), Int.floor_intCast]

/-- A whole number is its own ceiling. -/
theorem ceil_whole (n : ℤ) : (whole n).ceil = .ok n := by
  -- The ceiling is the floor from the other side, and both negations cancel.
  rw [ceil, neg, floor_whole]
  exact congrArg Except.ok (neg_neg n)

/-- A whole number has no fraction to cut off. -/
theorem truncate_whole (n : ℤ) : (whole n).truncate = .ok n := by
  rw [truncate, floor_whole, ceil_whole, ite_self]

end Spreadsheet.Number
