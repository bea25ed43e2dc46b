import Mathlib.Algebra.Order.Round
import Mathlib.Data.Int.Log
import Mathlib.Tactic.Linarith
import Mathlib.Tactic.Ring
import Spreadsheet.Proofs.Number.Worth

/-!
Rounding to 53 digits: the last place that a number keeps, and the nearest multiple of what this place
counts, the even one of two equally near. A number of 53 digits rounds to itself, and any other one
moves by half of its last place at most. The bits of the nearest double count these multiples.
-/

namespace Spreadsheet.Double

/-- A whole number is nearest to a rational one, and even if another one is as near. -/
structure NearestWhole (t : ℚ) (n : ℤ) : Prop where
  close : |t - n| ≤ 1 / 2
  tie : |t - n| = 1 / 2 → Even n

namespace NearestWhole

variable {s t : ℚ} {m n : ℤ}

/-- A whole number is nearest to itself. -/
theorem self (n : ℤ) : NearestWhole n n where
  close := by norm_num
  tie half := by norm_num at half

/-- A whole number closer than a half is nearest. -/
theorem of_lt (close : |t - n| < 1 / 2) : NearestWhole t n :=
  ⟨close.le, fun half => absurd half close.ne⟩

/-- The opposite number has the opposite nearest one. -/
theorem neg (near : NearestWhole t n) : NearestWhole (-t) (-n) := by
  -- The distance is the same on the other side of zero.
  have same : |-t - ((-n : ℤ) : ℚ)| = |t - n| := by
    rw [Int.cast_neg, ← neg_sub', abs_neg]
  exact ⟨same ▸ near.close, fun half => (near.tie (same ▸ half)).neg⟩

/-- A larger number has no smaller nearest one. -/
theorem mono (le : s ≤ t) (near : NearestWhole s m) (near' : NearestWhole t n) : m ≤ n := by
  have first := abs_le.mp near.close
  have second := abs_le.mp near'.close
  by_contra above
  -- The two can only be neighbours, with both numbers right between them.
  have step : (n : ℚ) + 1 ≤ m := by exact_mod_cast Int.lt_of_not_ge above
  have next : m = n + 1 := by exact_mod_cast (show (m : ℚ) = n + 1 by linarith)
  have half : s - m = -(1 / 2) ∧ t - n = 1 / 2 := by constructor <;> linarith
  have even := near.tie (by rw [half.1]; norm_num)
  have even' := near'.tie (by rw [half.2]; norm_num)
  rw [next, Int.even_add_one] at even
  exact even even'

/-- Only one whole number is nearest. -/
theorem unique (near : NearestWhole t m) (near' : NearestWhole t n) : m = n :=
  (near.mono le_rfl near').antisymm (near'.mono le_rfl near)

end NearestWhole

/-- The rounded quotient is nearest to the quotient. -/
theorem roundHalfEven_nearest (num : Nat) {den : Nat} (pos : 0 < den) :
    NearestWhole ((num : ℚ) / den) (roundHalfEven num den) := by
  -- A number is its quotient times the divisor, and the remainder.
  have whole : (num : ℚ) = den * (num / den : Nat) + (num % den : Nat) := by
    exact_mod_cast (Nat.div_add_mod num den).symm
  have positive : (0 : ℚ) < den := by exact_mod_cast pos
  have share : (num : ℚ) / den = (num / den : Nat) + ((num % den : Nat) : ℚ) / den := by
    rw [whole]
    field_simp
  have least : (0 : ℚ) ≤ ((num % den : Nat) : ℚ) / den := by positivity
  have most : ((num % den : Nat) : ℚ) / den < 1 := by
    rw [div_lt_one positive]
    exact_mod_cast Nat.mod_lt _ pos
  rw [roundHalfEven]
  -- The remainder is below, above, or at half of the divisor.
  split
  · rename_i below
    have half : ((num % den : Nat) : ℚ) / den < 1 / 2 := by
      rw [div_lt_div_iff₀ positive two_pos]
      exact_mod_cast (by omega : num % den * 2 < 1 * den)
    refine .of_lt ?_
    rw [share, Int.cast_natCast, add_sub_cancel_left, abs_of_nonneg least]
    exact half
  · split
    · rename_i above
      -- More than half a divisor is nearer to the next quotient.
      have half : 1 / 2 < ((num % den : Nat) : ℚ) / den := by
        rw [div_lt_div_iff₀ two_pos positive]
        exact_mod_cast (by omega : 1 * den < num % den * 2)
      refine .of_lt ?_
      rw [share, Int.cast_natCast, Nat.cast_add, Nat.cast_one, add_sub_add_left_eq_sub, abs_lt]
      constructor <;> linarith
    · rename_i notBelow notAbove
      have half : ((num % den : Nat) : ℚ) / den = 1 / 2 := by
        rw [div_eq_div_iff positive.ne' two_ne_zero]
        exact_mod_cast (by omega : num % den * 2 = 1 * den)
      -- At the half the quotient is raised by its own parity, so that it becomes even.
      have parity : Even (num / den + num / den % 2) := by
        rw [Nat.even_iff]
        omega
      refine ⟨?_, fun _ => by exact_mod_cast parity⟩
      have bit : ((num / den % 2 : Nat) : ℚ) = 0 ∨ ((num / den % 2 : Nat) : ℚ) = 1 := by
        exact_mod_cast Nat.mod_two_eq_zero_or_one _
      rw [share, half, Int.cast_natCast, Nat.cast_add, add_sub_add_left_eq_sub, abs_le]
      rcases bit with even | odd
      · rw [even]; norm_num
      · rw [odd]; norm_num

/-- The exponent of the last place of the doubles next to a number. -/
def place (q : ℚ) : ℤ := max (Int.log 2 |q| - 52) leastExponent

/-- The leading bit of a number that lies between two powers of two. -/
theorem log_eq {q : ℚ} {l : ℤ} (low : 2 ^ l ≤ q) (high : q < 2 ^ (l + 1)) : Int.log 2 q = l := by
  have pos : 0 < q := (zpow_pos two_pos l).trans_le low
  -- The power of two below and the one above fix the leading bit.
  have above := (Int.zpow_le_iff_le_log one_lt_two pos).mp (by exact_mod_cast low)
  have below := (Int.lt_zpow_iff_log_lt one_lt_two pos).mp (by exact_mod_cast high)
  omega

/-- Larger numbers have no lower last places. -/
theorem place_mono {p q : ℚ} (pos : 0 < p) (le : p ≤ q) : place p ≤ place q := by
  -- A larger number has no lower leading bit.
  have leading := Int.log_mono_right (b := 2) pos le
  rw [place, place, abs_of_pos pos, abs_of_pos (pos.trans_le le)]
  exact max_le_max_right _ (sub_le_sub_right leading 52)

/-- A quotient lies between powers of two, next to the difference of the leading bits. -/
theorem zpow_le_div {num den : Nat} (some : 0 < num) (pos : 0 < den) :
    (2 : ℚ) ^ ((num.log2 : ℤ) - den.log2 - 1) < num / den ∧
      (num : ℚ) / den < 2 ^ ((num.log2 : ℤ) - den.log2 + 1) := by
  -- Both numbers lie between the power of two of their leading bit and the next one.
  have positive : (0 : ℚ) < den := by exact_mod_cast pos
  have numLow : (2 : ℚ) ^ (num.log2 : ℤ) ≤ num := by exact_mod_cast Nat.log2_self_le some.ne'
  have numHigh : (num : ℚ) < 2 ^ ((num.log2 : ℤ) + 1) := by exact_mod_cast Nat.lt_log2_self
  have denLow : (2 : ℚ) ^ (den.log2 : ℤ) ≤ den := by exact_mod_cast Nat.log2_self_le pos.ne'
  have denHigh : (den : ℚ) < 2 ^ ((den.log2 : ℤ) + 1) := by exact_mod_cast Nat.lt_log2_self
  constructor
  · rw [lt_div_iff₀ positive]
    calc (2 : ℚ) ^ ((num.log2 : ℤ) - den.log2 - 1) * den
        < 2 ^ ((num.log2 : ℤ) - den.log2 - 1) * 2 ^ ((den.log2 : ℤ) + 1) := by gcongr
      _ = 2 ^ (num.log2 : ℤ) := by rw [← zpow_add₀ two_ne_zero]; congr 1; ring
      _ ≤ num := numLow
  · rw [div_lt_iff₀ positive]
    calc (num : ℚ) < 2 ^ ((num.log2 : ℤ) + 1) := numHigh
      _ = 2 ^ ((num.log2 : ℤ) - den.log2 + 1) * 2 ^ (den.log2 : ℤ) := by
        rw [← zpow_add₀ two_ne_zero]; congr 1; ring
      _ ≤ 2 ^ ((num.log2 : ℤ) - den.log2 + 1) * den := by gcongr

/-- A quotient scaled down is the quotient over a power of two. -/
theorem scaleDown_div (num : Nat) {den : Nat} (pos : 0 < den) (e : ℤ) :
    0 < (scaleDown num den e).2 ∧
      ((scaleDown num den e).1 : ℚ) / (scaleDown num den e).2 = num / den / 2 ^ e := by
  have positive : (0 : ℚ) < den := by exact_mod_cast pos
  -- Shifting to the left is multiplying by a power of two.
  have shift (m n : Nat) : ((m <<< n : Nat) : ℚ) = m * ((1 <<< n : Nat) : ℚ) := by
    rw [Nat.shiftLeft_eq, Nat.one_shiftLeft]
    exact Nat.cast_mul _ _
  rw [scaleDown]
  split
  · rename_i nonneg
    refine ⟨?_, ?_⟩
    · rw [Nat.shiftLeft_eq]
      positivity
    · rw [shift, Exact.natCast_one_shiftLeft nonneg, div_div]
  · refine ⟨pos, ?_⟩
    rw [shift, Exact.natCast_one_shiftLeft (by omega), zpow_neg]
    field_simp

/-- The last place next to a quotient. -/
theorem lastPlace_eq {num den : Nat} (some : 0 < num) (pos : 0 < den) :
    lastPlace num den = place ((num : ℚ) / den) := by
  -- The difference of the leading bits is the leading bit of the quotient, or one more.
  obtain ⟨low, high⟩ := zpow_le_div some pos
  have positive : (0 : ℚ) < num / den := (zpow_pos two_pos _).trans low
  obtain ⟨bottom, scaled⟩ := scaleDown_div num pos ((num.log2 : ℤ) - den.log2)
  rw [lastPlace, place, abs_of_pos positive]
  dsimp only
  -- The scaled quotient is below one exactly if the guess is one too high.
  have below : (scaleDown num den ((num.log2 : ℤ) - den.log2)).1 <
      (scaleDown num den ((num.log2 : ℤ) - den.log2)).2 ↔
        (num : ℚ) / den < 2 ^ ((num.log2 : ℤ) - den.log2) := by
    rw [← Nat.cast_lt (α := ℚ), ← div_lt_one (Nat.cast_pos.mpr bottom), scaled,
      div_lt_one (zpow_pos two_pos _)]
  split
  · -- The quotient is below the guessed power, so its leading bit is one lower.
    rename_i less
    rw [log_eq low.le (by rw [sub_add_cancel]; exact below.mp less)]
  · -- Otherwise the guess is right.
    rename_i notLess
    rw [log_eq (not_lt.mp (mt below.mpr notLess)) high]

/-- The hidden bit stands 52 places above the last one. -/
theorem hiddenBit_eq : ((hiddenBit : Nat) : ℚ) = 2 ^ (52 : ℤ) := by norm_num [hiddenBit]

/-- A number fills its last places, unless these are the least ones. -/
theorem significand_bounds {q : ℚ} {n : ℤ} (pos : 0 < q) (near : NearestWhole (q / 2 ^ place q) n) :
    0 ≤ n ∧ n ≤ 2 * hiddenBit ∧ (place q = leastExponent ∨ hiddenBit ≤ n) := by
  -- Counted in units of its last place the number is compared with zero, two hidden bits and one.
  have unit : (0 : ℚ) < 2 ^ place q := zpow_pos two_pos _
  refine ⟨?_, ?_, ?_⟩
  · exact (NearestWhole.self 0).mono (by rw [Int.cast_zero]; positivity) near
  · -- The place is at most 52 below the leading bit.
    have high := Int.lt_zpow_succ_log_self one_lt_two q
    have low : Int.log 2 q - 52 ≤ place q := by
      rw [place, abs_of_pos pos]
      exact le_max_left _ _
    refine near.mono ?_ (NearestWhole.self (2 * hiddenBit))
    rw [div_le_iff₀ unit]
    calc q ≤ 2 ^ (Int.log 2 q + 1) := by exact_mod_cast high.le
      _ ≤ 2 ^ (53 + place q) := zpow_le_zpow_right₀ one_le_two (by omega)
      _ = ((2 * hiddenBit : ℤ) : ℚ) * 2 ^ place q := by
        rw [zpow_add₀ two_ne_zero, Int.cast_mul, Int.cast_natCast, hiddenBit_eq]
        norm_num
  · rw [or_iff_not_imp_left]
    intro more
    -- Above the least place it is exactly 52 below the leading bit.
    have exactly52 : place q = Int.log 2 q - 52 := by
      rw [place, abs_of_pos pos] at more ⊢
      omega
    refine (NearestWhole.self hiddenBit).mono ?_ near
    rw [le_div_iff₀ unit]
    calc ((hiddenBit : ℤ) : ℚ) * 2 ^ place q = 2 ^ (52 + place q) := by
          rw [zpow_add₀ two_ne_zero, Int.cast_natCast, hiddenBit_eq]
      _ = 2 ^ Int.log 2 q := by rw [exactly52]; congr 1; ring
      _ ≤ q := by exact_mod_cast Int.zpow_log_le_self one_lt_two pos

/-- The bits of the double nearest to a quotient count the multiples of its last place. -/
theorem nearestBits_eq {num den : Nat} (some : 0 < num) (pos : 0 < den) :
    ∃ n : Nat, NearestWhole ((num : ℚ) / den / 2 ^ place (num / den)) n ∧
      nearestBits num den =
        min ((place ((num : ℚ) / den) - leastExponent).toNat * hiddenBit + n) infinityBits := by
  -- The quotient is scaled to its last place, and rounded there.
  obtain ⟨bottom, scaled⟩ := scaleDown_div num pos (place ((num : ℚ) / den))
  refine ⟨_, scaled ▸ roundHalfEven_nearest _ bottom, ?_⟩
  rw [nearestBits, if_neg some.ne', lastPlace_eq some pos]

/-- The least number that is rounded beyond the doubles. -/
def rangeEnd : ℤ :=
  -- It is halfway from the largest double to the next power of two.
  2 ^ 1024 - 2 ^ 970

/-- In halves of the last place of the largest doubles the bound is odd. -/
theorem cast_rangeEnd : (rangeEnd : ℚ) = (2 ^ 54 - 1) * 2 ^ 970 := by
  have whole : (2 : ℚ) ^ 1024 = 2 ^ 54 * 2 ^ 970 := by rw [← pow_add]
  rw [rangeEnd, Int.cast_sub, Int.cast_pow, Int.cast_pow, Int.cast_ofNat, whole, sub_one_mul]

/-- The multiple that is nearest to a number, of what the last place of the number counts. -/
def Rounding (q r : ℚ) : Prop := ∃ n : ℤ, NearestWhole (q / 2 ^ place q) n ∧ r = n * 2 ^ place q

namespace Rounding

variable {p q r s : ℚ}

/-- Only one multiple is nearest. -/
theorem unique (rounding : Rounding q r) (rounding' : Rounding q s) : r = s := by
  -- The counts agree, since only one whole number is nearest.
  obtain ⟨m, near, rfl⟩ := rounding
  obtain ⟨n, near', rfl⟩ := rounding'
  rw [near.unique near']

/-- Rounding does not look at the sign. -/
theorem neg (rounding : Rounding q r) : Rounding (-q) (-r) := by
  -- The last place is that of the size.
  obtain ⟨n, near, rfl⟩ := rounding
  have same : place (-q) = place q := by rw [place, place, abs_neg]
  refine ⟨-n, ?_, ?_⟩
  · rw [same, neg_div]
    exact near.neg
  · rw [same, Int.cast_neg, neg_mul]

/-- A number that counts its last place is left alone. -/
theorem of_multiple {n : ℤ} (multiple : q = n * 2 ^ place q) : Rounding q q := by
  -- The count of the last place is whole already.
  refine ⟨n, ?_, multiple⟩
  have unit : (2 : ℚ) ^ place q ≠ 0 := (zpow_pos two_pos _).ne'
  rw [show q / 2 ^ place q = n by rw [div_eq_iff unit]; exact multiple]
  exact .self n

/-- A number of 53 digits counts its last place. -/
theorem exists_multiple {s e : ℤ} (short : s.natAbs < 2 ^ 53) (low : leastExponent ≤ e) :
    ∃ n : ℤ, (s : ℚ) * 2 ^ e = n * 2 ^ place (s * 2 ^ e) := by
  by_cases none : s = 0
  · exact ⟨0, by simp [none]⟩
  -- A significand of 53 bits lies below the 53rd power of two above its place.
  have unit : (0 : ℚ) < 2 ^ e := zpow_pos two_pos _
  have size : |(s : ℚ) * 2 ^ e| < 2 ^ (53 + e) := by
    have short' : ((s.natAbs : ℤ) : ℚ) < 2 ^ (53 : ℤ) := by exact_mod_cast short
    rw [abs_mul, abs_of_pos unit, zpow_add₀ two_ne_zero, ← Int.cast_abs, Int.abs_eq_natAbs]
    gcongr
  have some : 0 < |(s : ℚ) * 2 ^ e| := by positivity
  have below := (Int.lt_zpow_iff_log_lt one_lt_two some).mp (by exact_mod_cast size)
  -- So the last place stands no higher than the digits do.
  have under : place (s * 2 ^ e) ≤ e := by
    rw [place]
    omega
  refine ⟨s * (1 <<< (e - place (s * 2 ^ e)).toNat : Nat), ?_⟩
  exact (Exact.intCast_mul_shiftLeft s under).symm

/-- A number of 53 digits is left alone. -/
theorem of_short {s e : ℤ} (short : s.natAbs < 2 ^ 53) (low : leastExponent ≤ e) :
    -- A number of 53 digits is a multiple of its last place.
    Rounding (s * 2 ^ e) (s * 2 ^ e) := by
  obtain ⟨n, multiple⟩ := exists_multiple short low
  exact of_multiple multiple

/-- A whole number of 53 digits is left alone. -/
theorem of_whole {n : ℤ} (short : n.natAbs < 2 ^ 53) : Rounding n n := by
  simpa using of_short short (show leastExponent ≤ 0 by decide)

/-- Zero is left alone. -/
theorem zero : Rounding 0 0 := of_multiple (show (0 : ℚ) = (0 : ℤ) * _ by simp)

/-- Rounding moves a number by half of its last place at most, a share of `2 ^ -53`. -/
theorem abs_sub_le (rounding : Rounding q r) : |r - q| ≤ max |q| (2 ^ (-1022 : ℤ)) / 2 ^ 53 := by
  by_cases none : q = 0
  · subst none
    rw [rounding.unique zero, sub_zero, abs_zero]
    positivity
  -- The nearest count is half a unit away at most, and the size of the number bounds the unit.
  obtain ⟨n, near, rfl⟩ := rounding
  have unit : (0 : ℚ) < 2 ^ place q := zpow_pos two_pos _
  have last : (2 : ℚ) ^ place q ≤ max |q| (2 ^ (-1022 : ℤ)) / 2 ^ 52 := by
    rw [le_div_iff₀ (by positivity), le_max_iff]
    -- The last place is set by the leading bit, or it is the least one.
    rcases max_choice (Int.log 2 |q| - 52) leastExponent with leading | least
    · left
      have low := Int.zpow_log_le_self one_lt_two (abs_pos.mpr none)
      rw [place, leading, zpow_sub₀ two_ne_zero]
      have exactly : (2 : ℚ) ^ Int.log 2 |q| / 2 ^ (52 : ℤ) * 2 ^ 52 = 2 ^ Int.log 2 |q| := by
        norm_num
      rw [exactly]
      exact_mod_cast low
    · right
      rw [place, least, leastExponent, ← zpow_natCast, ← zpow_add₀ two_ne_zero]
      norm_num
  have moved : |(n : ℚ) * 2 ^ place q - q| = |q / 2 ^ place q - n| * 2 ^ place q := by
    rw [← abs_of_pos unit, ← abs_mul, abs_of_pos unit, sub_mul, div_mul_cancel₀ _ unit.ne',
      abs_sub_comm]
  calc |(n : ℚ) * 2 ^ place q - q| ≤ 1 / 2 * 2 ^ place q := by
        rw [moved]
        exact mul_le_mul_of_nonneg_right near.close unit.le
    _ ≤ 1 / 2 * (max |q| (2 ^ (-1022 : ℤ)) / 2 ^ 52) := by gcongr
    _ = max |q| (2 ^ (-1022 : ℤ)) / 2 ^ 53 := by ring

/-- The least normal double is below one. -/
theorem leastNormal_le_one : (2 : ℚ) ^ (-1022 : ℤ) ≤ 1 := zpow_le_one_of_nonpos₀ one_le_two (by decide)

/-- A whole number is zero or no smaller than the least normal double. -/
theorem normal_of_whole (n : ℤ) : (n : ℚ) = 0 ∨ 2 ^ (-1022 : ℤ) ≤ |(n : ℚ)| := by
  rcases eq_or_ne n 0 with rfl | some
  · exact .inl Int.cast_zero
  · right
    have one : (1 : ℚ) ≤ |(n : ℚ)| := by exact_mod_cast Int.one_le_abs some
    exact leastNormal_le_one.trans one

/-- Rounding moves zero and normal numbers by a share of `2 ^ -53` at most. -/
theorem abs_sub_le_of_normal (rounding : Rounding q r) (normal : q = 0 ∨ 2 ^ (-1022 : ℤ) ≤ |q|) :
    |r - q| ≤ |q| / 2 ^ 53 := by
  -- Zero does not move, and for any other number the size is the greater of the two.
  rcases normal with rfl | large
  · rw [rounding.unique zero]
    norm_num
  · have near := rounding.abs_sub_le
    rw [max_eq_left large] at near
    exact near

/-- Rounding keeps numbers in range that are well inside of it. -/
theorem abs_lt (rounding : Rounding q r) (small : |q| ≤ 2 ^ 1023) : |r| < 2 ^ 1024 := by
  -- What is added is less than the room that is left.
  have near := rounding.abs_sub_le
  have range : (2 : ℚ) ^ 1024 = 2 ^ 1023 * 2 := pow_succ 2 1023
  have one : (1 : ℚ) ≤ 2 ^ 1023 := one_le_pow₀ one_le_two
  have most : max |q| (2 ^ (-1022 : ℤ)) ≤ 2 ^ 1023 := max_le small (leastNormal_le_one.trans one)
  have share : max |q| (2 ^ (-1022 : ℤ)) / 2 ^ 53 < 2 ^ 1023 :=
    (div_lt_self (by positivity) (one_lt_pow₀ one_lt_two (by decide))).trans_le most
  calc |r| ≤ |q| + |r - q| := by linarith only [abs_sub_abs_le_abs_sub r q]
    _ < 2 ^ 1023 + 2 ^ 1023 := add_lt_add_of_le_of_lt small (near.trans_lt share)
    _ = 2 ^ 1024 := by rw [range, mul_two]

/-- Rounding keeps numbers from going below zero. -/
theorem nonneg (rounding : Rounding q r) (le : 0 ≤ q) : 0 ≤ r := by
  -- Zero is a count as well, and below no nearest one that is not negative.
  obtain ⟨n, near, rfl⟩ := rounding
  have least : 0 ≤ n := (NearestWhole.self 0).mono (by rw [Int.cast_zero]; positivity) near
  have least' : (0 : ℚ) ≤ n := by exact_mod_cast least
  positivity

/-- Of two positive numbers the larger one is rounded to no less. -/
theorem mono_of_pos (pos : 0 < p) (le : p ≤ q) (rounding : Rounding p r) (rounding' : Rounding q s) :
    r ≤ s := by
  obtain ⟨m, near, rfl⟩ := rounding
  obtain ⟨n, near', rfl⟩ := rounding'
  have unit : (0 : ℚ) < 2 ^ place p := zpow_pos two_pos _
  rcases (place_mono pos le).eq_or_lt with same | lower
  · -- Multiples of one place are in the order of their counts.
    rw [← same] at near' ⊢
    have counts : m ≤ n := near.mono (by gcongr) near'
    gcongr
  · -- A higher place has a full significand, which is no less than any at a lower one.
    obtain ⟨-, most, -⟩ := significand_bounds pos near
    obtain ⟨-, -, least | full⟩ := significand_bounds (pos.trans_le le) near'
    · have low : leastExponent ≤ place p := le_max_right _ _
      omega
    · have most' : (m : ℚ) ≤ 2 ^ (53 : ℤ) := by
        have cast : (m : ℚ) ≤ (2 * hiddenBit : ℤ) := by exact_mod_cast most
        rw [Int.cast_mul, Int.cast_natCast, hiddenBit_eq] at cast
        exact cast.trans (by norm_num)
      have full' : (2 : ℚ) ^ (52 : ℤ) ≤ n := by
        rw [← hiddenBit_eq]
        exact_mod_cast full
      calc (m : ℚ) * 2 ^ place p ≤ 2 ^ (53 : ℤ) * 2 ^ place p := by gcongr
        _ = 2 ^ (53 + place p) := (zpow_add₀ two_ne_zero _ _).symm
        _ ≤ 2 ^ (52 + place q) := zpow_le_zpow_right₀ one_le_two (by omega)
        _ = 2 ^ (52 : ℤ) * 2 ^ place q := zpow_add₀ two_ne_zero _ _
        _ ≤ n * 2 ^ place q := by gcongr

/-- Of two numbers the larger one is rounded to no less. -/
theorem mono (le : p ≤ q) (rounding : Rounding p r) (rounding' : Rounding q s) : r ≤ s := by
  -- Below zero the order is turned around, and zero itself is left alone.
  rcases lt_trichotomy p 0 with negative | rfl | positive
  · rcases lt_or_ge q 0 with negative' | nonneg'
    · exact neg_le_neg_iff.mp
        (mono_of_pos (neg_pos.mpr negative') (neg_le_neg le) rounding'.neg rounding.neg)
    · exact (neg_nonneg.mp (rounding.neg.nonneg (neg_nonneg.mpr negative.le))).trans
        (rounding'.nonneg nonneg')
  · rw [rounding.unique zero]
    exact rounding'.nonneg le
  · exact mono_of_pos positive le rounding rounding'

section Whole

variable {k m : ℤ}

/-- The last place of a number that lies between two powers of two from `2 ^ 52` on. -/
theorem place_of_large {l : ℕ} (low : 2 ^ 52 * 2 ^ l ≤ q) (high : q < 2 ^ 53 * 2 ^ l) :
    place q = l := by
  -- The leading bit stands 52 places above.
  have pos : 0 < q := lt_of_lt_of_le (by positivity) low
  have leading : Int.log 2 q = 52 + l := by
    refine log_eq ?_ ?_
    · rw [zpow_add₀ two_ne_zero, zpow_natCast]
      exact_mod_cast low
    · rw [add_right_comm, zpow_add₀ two_ne_zero, zpow_natCast]
      exact_mod_cast high
  rw [place, abs_of_pos pos, leading, leastExponent]
  omega

/-- The bound itself is rounded to the even side. -/
theorem of_rangeEnd : Rounding rangeEnd (2 ^ 1024) := by
  -- The last place of the largest doubles is 2 ^ 971, and the bound is half of it below 2 ^ 1024.
  have last : (2 : ℚ) ^ 971 = 2 * 2 ^ 970 := pow_succ' 2 970
  have whole : (2 : ℚ) ^ 1024 = 2 ^ 53 * 2 ^ 971 := by rw [← pow_add]
  have unit : (0 : ℚ) < 2 ^ 970 := by positivity
  have within : 2 ^ 52 * 2 ^ 971 ≤ (rangeEnd : ℚ) ∧ (rangeEnd : ℚ) < 2 ^ 53 * 2 ^ 971 := by
    rw [cast_rangeEnd, last]
    generalize (2 : ℚ) ^ 970 = u at unit ⊢
    constructor <;> linarith only [unit]
  have here : place rangeEnd = (971 : ℕ) := place_of_large within.1 within.2
  -- It lies right between two counts, of which the power of two is even.
  have half : (rangeEnd : ℚ) / 2 ^ place rangeEnd - ((2 ^ 53 : ℤ) : ℚ) = -(1 / 2) := by
    rw [here, zpow_natCast, cast_rangeEnd, last, mul_div_mul_right _ _ unit.ne']
    norm_num
  refine ⟨2 ^ 53, ⟨?_, fun _ => by decide⟩, ?_⟩
  · rw [half]
    norm_num
  · rw [here, zpow_natCast, whole, Int.cast_pow, Int.cast_ofNat]

/-- From the bound on numbers are rounded beyond the doubles, and below it they are not. -/
theorem lt_iff_of_nonneg (rounding : Rounding q r) (le : 0 ≤ q) : r < 2 ^ 1024 ↔ q < rangeEnd := by
  constructor
  · -- From the bound on what is rounded is no less than the rounding of the bound.
    intro small
    by_contra large
    exact absurd (of_rangeEnd.mono (not_lt.mp large) rounding) (not_le.mpr small)
  · intro small
    rcases lt_or_ge q (2 ^ 1023) with well | edge
    · have near := rounding.abs_lt (by rw [abs_of_nonneg le]; exact well.le)
      exact (le_abs_self r).trans_lt near
    -- Up to the bound the last place is that of the largest doubles.
    have last : (2 : ℚ) ^ 971 = 2 * 2 ^ 970 := pow_succ' 2 970
    have start : (2 : ℚ) ^ 1023 = 2 ^ 52 * 2 ^ 971 := by rw [← pow_add]
    have whole : (2 : ℚ) ^ 1024 = 2 ^ 53 * 2 ^ 971 := by rw [← pow_add]
    have unit : (0 : ℚ) < 2 ^ 970 := by positivity
    rw [cast_rangeEnd] at small
    rw [start] at edge
    have here : place q = (971 : ℕ) := by
      refine place_of_large edge (small.trans ?_)
      rw [last]
      generalize (2 : ℚ) ^ 970 = u at unit ⊢
      linarith only [unit]
    -- The count is nearest to a share that lacks more than a half to the next power.
    obtain ⟨n, near, rfl⟩ := rounding
    rw [here, zpow_natCast] at near ⊢
    rw [whole]
    have share : q / 2 ^ 971 < 2 ^ 53 - 1 / 2 := by
      rw [div_lt_iff₀ (by positivity), last]
      generalize (2 : ℚ) ^ 970 = u at small ⊢
      linarith only [small]
    have count : (n : ℚ) < 2 ^ 53 := by
      have close := (abs_le.mp near.close).1
      generalize q / 2 ^ 971 = t at share close
      linarith only [close, share]
    gcongr

/-- The last place of a whole number from `2 ^ 52` on is whole, and a half does not change it. -/
theorem exists_place (large : 2 ^ 52 ≤ m) :
    ∃ l : ℕ, place m = l ∧ place (m + 1 / 2) = l ∧ m < 2 ^ 53 * 2 ^ l ∧ 2 ^ 52 * 2 ^ l ≤ m := by
  -- The leading bit of the number is at least 52, and the places above that are whole.
  obtain ⟨n, rfl⟩ := Int.eq_ofNat_of_zero_le (by omega : 0 ≤ m)
  have some : n ≠ 0 := by omega
  have leading : 52 ≤ n.log2 := (Nat.le_log2 some).mpr (by omega)
  have low : 2 ^ 52 * 2 ^ (n.log2 - 52) ≤ n := by
    rw [← pow_add, Nat.add_sub_cancel' leading]
    exact Nat.log2_self_le some
  have high : n < 2 ^ 53 * 2 ^ (n.log2 - 52) := by
    rw [← pow_add, show 53 + (n.log2 - 52) = n.log2 + 1 by omega]
    exact Nat.lt_log2_self
  have low' : (2 ^ 52 * 2 ^ (n.log2 - 52) : ℚ) ≤ (n : ℤ) := by exact_mod_cast low
  have high' : ((n : ℤ) : ℚ) + 1 ≤ 2 ^ 53 * 2 ^ (n.log2 - 52) := by exact_mod_cast high
  refine ⟨n.log2 - 52, place_of_large low' ?_, place_of_large ?_ ?_, ?_, ?_⟩
  · -- A half more stays below the next power of two.
    linarith only [high']
  · linarith only [low']
  · linarith only [high']
  · exact_mod_cast high
  · exact_mod_cast low

/-- A whole number below `2 ^ 53` is left alone, and any other one becomes even. -/
theorem whole_cases (nonneg : 0 ≤ m) (rounding : Rounding m r) :
    m < 2 ^ 53 ∧ r = m ∨ 2 ^ 53 ≤ m ∧ ∃ k : ℤ, r = k ∧ Even k ∧ 2 ^ 52 ≤ k := by
  -- Below 2 ^ 53 the number has few enough digits.
  rcases lt_or_ge m (2 ^ 53) with small | large
  · exact .inl ⟨small, rounding.unique (of_whole (by omega))⟩
  · right
    obtain ⟨l, here, -, high, low⟩ := exists_place (show 2 ^ 52 ≤ m by omega)
    obtain ⟨n, near, rfl⟩ := rounding
    -- From there on its last place counts by two or more, so every multiple is even.
    rw [here, zpow_natCast] at near ⊢
    have some : l ≠ 0 := by
      rintro rfl
      omega
    have least : (2 ^ 52 : ℤ) ≤ n := by
      refine (NearestWhole.self (2 ^ 52)).mono ?_ near
      rw [le_div_iff₀ (by positivity)]
      exact_mod_cast low
    refine ⟨large, n * 2 ^ l, by push_cast; rfl, ?_, ?_⟩
    · exact (Int.even_pow.mpr ⟨even_two, some⟩).mul_left n
    · exact least.trans (le_mul_of_one_le_right (by omega) (one_le_pow₀ (by decide)))

/-- An odd number to which a whole one rounds is this number, and small. -/
theorem eq_of_odd (nonneg : 0 ≤ m) (rounding : Rounding m k) (odd : Odd k) : m < 2 ^ 53 ∧ k = m := by
  -- Anything large becomes even, so the number was small and is left alone.
  rcases rounding.whole_cases nonneg with ⟨small, same⟩ | ⟨-, l, same, even, -⟩
  · exact ⟨small, by exact_mod_cast same⟩
  · obtain rfl : k = l := by exact_mod_cast same
    exact absurd even (Int.not_even_iff_odd.mpr odd)

/-- Below `2 ^ 52` there is room for a half. -/
theorem add_half_of_small (nonneg : 0 ≤ k) (small : k < 2 ^ 52) :
    Rounding ((k : ℚ) + 1 / 2) (k + 1 / 2) := by
  -- In halves the number has 53 digits.
  have short := of_short (s := 2 * k + 1) (e := -1) (by omega) (by decide)
  have halves : ((2 * k + 1 : ℤ) : ℚ) * 2 ^ (-1 : ℤ) = k + 1 / 2 := by
    push_cast
    rw [zpow_neg_one]
    ring
  rw [halves] at short
  exact short

/-- An even number from `2 ^ 52` on takes no notice of a half. -/
theorem add_half_of_even (large : 2 ^ 52 ≤ k) (even : Even k) (self : Rounding k k) :
    Rounding ((k : ℚ) + 1 / 2) k := by
  -- The half is counted at the place of the number itself.
  obtain ⟨l, here, there, -, -⟩ := exists_place large
  obtain ⟨n, -, multiple⟩ := self
  refine ⟨n, ?_, by rw [there, ← here]; exact multiple⟩
  rw [here, zpow_natCast] at multiple
  rw [there, zpow_natCast, multiple]
  have unit : (1 : ℚ) ≤ 2 ^ l := one_le_pow₀ one_le_two
  have moved : (n * 2 ^ l + 1 / 2) / 2 ^ l - n = (1 / 2 : ℚ) / 2 ^ l := by field_simp; ring
  have size : |(1 / 2 : ℚ) / 2 ^ l| = 1 / 2 / 2 ^ l := abs_of_pos (by positivity)
  constructor
  · rw [moved, size]
    exact div_le_self (by norm_num) unit
  · -- A tie stands at the place of units, where the multiple is the number itself.
    intro tie
    rw [moved, size, div_eq_iff (by positivity)] at tie
    have one : (2 : ℚ) ^ l = 1 := by linarith only [tie]
    rw [one, mul_one] at multiple
    have same : k = n := by exact_mod_cast multiple
    exact same ▸ even

/-- An odd number from `2 ^ 52` on makes a half a whole. -/
theorem add_half_of_odd (large : 2 ^ 52 ≤ k) (small : k < 2 ^ 53) (odd : Odd k) :
    Rounding ((k : ℚ) + 1 / 2) (k + 1) := by
  -- The place counts units, as the number has exactly 53 digits.
  obtain ⟨l, -, there, -, low⟩ := exists_place large
  have none : l = 0 := by
    by_contra some
    have two : (2 : ℤ) ^ 1 ≤ 2 ^ l := pow_le_pow_right₀ (by decide) (Nat.pos_of_ne_zero some)
    omega
  refine ⟨k + 1, ?_, ?_⟩
  · -- The half is a tie, and the number after an odd one is even.
    rw [there, none, Nat.cast_zero, zpow_zero, div_one]
    have moved : |(k : ℚ) + 1 / 2 - (k + 1 : ℤ)| = 1 / 2 := by
      push_cast
      rw [show (k : ℚ) + 1 / 2 - (k + 1) = -(1 / 2) by ring, abs_neg]
      norm_num
    exact ⟨moved.le, fun _ => odd.add_one⟩
  · rw [there, none, Nat.cast_zero, zpow_zero, mul_one]
    push_cast
    rfl

end Whole

end Rounding

end Spreadsheet.Double
