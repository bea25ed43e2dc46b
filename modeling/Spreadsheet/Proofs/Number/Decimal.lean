import Spreadsheet.Proofs.Number.Nearest

/-!
The double of a decimal: what its digits and its power of ten stand for rounds to it. Exponents far
outside the range of doubles are not calculated with, and change nothing about that.
-/

namespace Spreadsheet.Double

variable {x : Float} {q r : ℚ}

/-- Numbers far below the least double are rounded to zero. -/
theorem Rounding.of_tiny (tiny : |q| < 2 ^ (-1075 : ℤ)) : Rounding q 0 := by
  rcases eq_or_ne q 0 with rfl | some
  · exact .zero
  -- The leading place is below the least one, so it is the least place that counts.
  have leading := (Int.lt_zpow_iff_log_lt one_lt_two (abs_pos.mpr some)).mp (by exact_mod_cast tiny)
  have least : place q = leastExponent := by
    rw [place, leastExponent]
    omega
  -- Zero is the nearest multiple, as the number is less than half of the least place away from it.
  refine ⟨0, .of_lt ?_, by simp⟩
  have unit : (0 : ℚ) < 2 ^ leastExponent := zpow_pos two_pos _
  have half : (2 : ℚ) ^ (-1075 : ℤ) = 1 / 2 * 2 ^ leastExponent := by
    rw [leastExponent, show (-1075 : ℤ) = -1 + -1074 by rfl, zpow_add₀ two_ne_zero, zpow_neg_one,
      one_div]
  rw [Int.cast_zero, sub_zero, least, abs_div, abs_of_pos unit, div_lt_iff₀ unit, ← half]
  exact tiny

/-- A magnitude is rounded as the number is, and has no sign. -/
theorem Rounding.abs (rounding : Rounding q r) : Rounding |q| |r| := by
  -- Rounding commutes with the sign.
  rcases le_total 0 q with nonneg | negative
  · rwa [abs_of_nonneg nonneg, abs_of_nonneg (rounding.nonneg nonneg)]
  · have below := rounding.neg.nonneg (neg_nonneg.mpr negative)
    rw [abs_of_nonpos negative, abs_of_nonpos (neg_nonneg.mp below)]
    exact rounding.neg

/-- There is a nearest multiple for every number. -/
theorem Rounding.exists (q : ℚ) : ∃ r, Rounding q r := by
  -- The size is a quotient, which has a nearest double; the double of the number has its sign.
  obtain ⟨r, rounding, -⟩ := nearest_rounds (decide (q < 0)) q.num.natAbs q.den_pos
  refine ⟨r, ?_⟩
  have magnitude : ((q.num.natAbs : ℕ) : ℚ) / q.den = |q| := by
    rw [Nat.cast_natAbs, Int.cast_abs, ← Nat.abs_cast q.den, ← abs_div, Rat.num_div_den]
  rw [magnitude] at rounding
  rcases lt_or_ge q 0 with negative | nonneg
  · rwa [decide_eq_true negative, if_pos rfl, abs_of_neg negative, neg_neg] at rounding
  · rwa [decide_eq_false nonneg.not_gt, if_neg Bool.false_ne_true, abs_of_nonneg nonneg] at rounding

/-- A number from the end of the range on rounds to the infinities and to no other double. -/
theorem Rounds.iff_of_large (large : rangeEnd ≤ |q|) : Rounds q x ↔ x.isInf = true := by
  -- The end of the range is the middle between the largest double and the next power of two.
  have beyond {r : ℚ} (rounding : Rounding q r) : 2 ^ 1024 ≤ |r| := by
    rw [← not_lt, rounding.abs.lt_iff_of_nonneg (abs_nonneg q), not_lt]
    exact large
  constructor
  · -- A double that is not infinite stays below that power of two.
    rintro ⟨r, rounding, ⟨small, -⟩ | ⟨-, infinite⟩⟩
    · exact absurd (beyond rounding) small.not_ge
    · exact infinite
  · intro infinite
    obtain ⟨r, rounding⟩ := Rounding.exists q
    exact ⟨r, rounding, .inr ⟨beyond rounding, infinite⟩⟩

/-- A number far below the least double rounds to zero with either sign. -/
theorem Rounds.of_tiny (tiny : |q| < 2 ^ (-1075 : ℤ)) (zero : Rounds 0 x) : Rounds q x :=
  ⟨0, .of_tiny tiny, .inl ⟨by norm_num, zero.worth .zero (by norm_num)⟩⟩

/-- The sign of the nearest double is the one that was asked for. -/
theorem isNegative_nearest_eq (negative : Bool) (num den : Nat) :
    isNegative (nearest negative num den) = negative :=
  -- The sign is read off the highest bit, which no size reaches.
  (sign_of_bits ((nearestBits_le num den).trans_lt (by decide)) (toBits_nearest negative num den)).2

section Decimal

variable {s : Nat} {e : ℤ}

/-- The range of doubles ends below its next power of two. -/
theorem rangeEnd_le {n : Nat} (large : 1024 ≤ n) : (rangeEnd : ℚ) ≤ 2 ^ n := by
  -- The end of the range lacks half of a last place to the power of two.
  have below : (rangeEnd : ℚ) ≤ 2 ^ 1024 := by
    rw [rangeEnd, Int.cast_sub, Int.cast_pow, Int.cast_pow, Int.cast_ofNat]
    exact sub_le_self _ (by positivity)
  exact below.trans (pow_le_pow_right₀ one_le_two large)

/-- The double nearest to a power of two above the range is infinite. -/
theorem isInf_nearest_shift (negative : Bool) {n : Nat} (large : 1024 ≤ n) :
    (nearest negative (1 <<< n) 1).isInf = true := by
  -- The power of two is itself beyond the end of the range.
  refine (Rounds.iff_of_large ?_).mp (nearest_rounds negative (1 <<< n) one_pos)
  rw [apply_ite abs, abs_neg, ite_self, Nat.one_shiftLeft, Nat.cast_pow, Nat.cast_one, div_one,
    Nat.cast_ofNat, abs_of_pos (by positivity)]
  exact rangeEnd_le large

/-- A decimal above the range of doubles. -/
theorem rangeEnd_le_of_exponent (some : s ≠ 0) (high : 400 < e) : (rangeEnd : ℚ) ≤ s * 10 ^ e := by
  -- At least one unit of the power of ten is there, and ten to the 400 is enough for any unit.
  have one : (1 : ℚ) ≤ s := by exact_mod_cast Nat.one_le_iff_ne_zero.mpr some
  calc (rangeEnd : ℚ) ≤ 2 ^ (3 * 400) := rangeEnd_le (by decide)
    _ = 8 ^ 400 := by rw [pow_mul]; norm_num
    _ ≤ 10 ^ 400 := pow_le_pow_left₀ (by norm_num) (by norm_num) _
    _ = 1 * 10 ^ (400 : ℤ) := by rw [one_mul]; exact (zpow_natCast 10 400).symm
    _ ≤ s * 10 ^ e := by gcongr; norm_num

/-- A decimal below the range of doubles: three bits are less than a digit. -/
theorem lt_of_exponent (low : e + (s.log2 / 3 : ℕ) < -400) :
    (s : ℚ) * 10 ^ e < 2 ^ (-1075 : ℤ) := by
  -- Three bits are worth less than one digit, so the length in bits bounds that in digits.
  have digits : s < 10 ^ (s.log2 / 3 + 1) :=
    calc s < 2 ^ (s.log2 + 1) := Nat.lt_log2_self
      _ ≤ 2 ^ (3 * (s.log2 / 3 + 1)) := Nat.pow_le_pow_right (by decide) (by omega)
      _ = 8 ^ (s.log2 / 3 + 1) := pow_mul 2 3 _
      _ ≤ 10 ^ (s.log2 / 3 + 1) := Nat.pow_le_pow_left (by decide) _
  have digits' : (s : ℚ) < 10 ^ ((s.log2 / 3 : ℕ) + 1 : ℤ) := by exact_mod_cast digits
  have power : (0 : ℚ) < 10 ^ e := by positivity
  -- The digits raise the exponent by less than what it lacks to -400.
  calc (s : ℚ) * 10 ^ e < 10 ^ ((s.log2 / 3 : ℕ) + 1 : ℤ) * 10 ^ e := by gcongr
    _ = 10 ^ ((s.log2 / 3 : ℕ) + 1 + e) := (zpow_add₀ (by norm_num) _ _).symm
    _ ≤ 10 ^ (-400 : ℤ) := zpow_le_zpow_right₀ (by norm_num) (by omega)
    _ ≤ 8 ^ (-400 : ℤ) := by
      rw [zpow_neg, zpow_neg]
      exact inv_anti₀ (by positivity) (zpow_le_zpow_left₀ (by decide) (by norm_num) (by norm_num))
    _ = 2 ^ (-1200 : ℤ) := by rw [show (8 : ℚ) = 2 ^ (3 : ℤ) by norm_num, ← zpow_mul]; rfl
    _ < 2 ^ (-1075 : ℤ) := zpow_lt_zpow_right₀ one_lt_two (by decide)

end Decimal

/-- A decimal rounds to its double. -/
theorem ofDecimal_rounds (negative : Bool) (s : Nat) (e : ℤ) :
    Rounds (if negative then -((s : ℚ) * 10 ^ e) else s * 10 ^ e) (ofDecimal negative s e) := by
  -- The sign does not matter for the size of what is rounded.
  have size : |if negative then -((s : ℚ) * 10 ^ e) else s * 10 ^ e| = s * 10 ^ e := by
    rw [apply_ite abs, abs_neg, ite_self, abs_of_nonneg (by positivity)]
  -- Every branch that calculates takes the double nearest to a quotient of the same worth.
  have near {num den : Nat} (pos : 0 < den) (same : (num : ℚ) / den = s * 10 ^ e) :
      Rounds (if negative then -((s : ℚ) * 10 ^ e) else s * 10 ^ e) (nearest negative num den) :=
    same ▸ nearest_rounds negative num pos
  have zero : Rounds 0 (nearest negative 0 1) := by
    simpa using nearest_rounds negative 0 one_pos
  -- From here on only the size and the quotients of the decimal are needed, not its form.
  generalize (if negative then -((s : ℚ) * 10 ^ e) else s * 10 ^ e) = q at size near ⊢
  unfold ofDecimal
  split_ifs with none high low nonneg
  · exact near one_pos (by simp [none])
  · -- Both the decimal and the power of two in its place are beyond the range of doubles.
    rw [Rounds.iff_of_large (size ▸ rangeEnd_le_of_exponent none high)]
    exact isInf_nearest_shift negative (by decide)
  · exact .of_tiny (size ▸ lt_of_exponent (by exact_mod_cast low)) zero
  · -- With an exponent that is not negative the decimal is a whole number.
    refine near one_pos ?_
    rw [Nat.cast_one, div_one, Nat.cast_mul, Nat.pow_eq, Nat.cast_pow, Nat.cast_ofNat,
      ← zpow_natCast, Int.toNat_of_nonneg nonneg]
  · -- With a negative one the decimal is a whole number over a power of ten.
    refine near (Nat.pow_pos (by decide)) ?_
    rw [Nat.pow_eq, Nat.cast_pow, Nat.cast_ofNat, ← zpow_natCast, Int.toNat_of_nonneg (by omega),
      zpow_neg, div_inv_eq_mul]

/-- The double of a decimal has the sign of the decimal, zero included. -/
theorem isNegative_ofDecimal (negative : Bool) (s : Nat) (e : ℤ) :
    isNegative (ofDecimal negative s e) = negative := by
  -- Every branch takes the nearest double with the sign that was asked for.
  unfold ofDecimal
  split_ifs <;> exact isNegative_nearest_eq _ _ _

end Spreadsheet.Double
