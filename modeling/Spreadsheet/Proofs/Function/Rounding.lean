import Mathlib.Algebra.Ring.Int.Parity
import Mathlib.RingTheory.Coprime.Lemmas
import Spreadsheet.Function.Builtin
import Spreadsheet.Proofs.Function.Argument
import Spreadsheet.Proofs.Number.Arithmetic

/-!
What rounding makes of whole numbers. Their floor and ceiling are themselves. Rounding to decimals goes
through two doubles, one before and one after the scaling: it keeps the numbers that these two keep, and
moves the others by little.
-/

namespace Spreadsheet.Rounding

open Double (Worth)
open Number

/-- Rounding a whole number to decimals: it is scaled, raised by a half, cut off and scaled back. -/
theorem round_whole {n : ℤ} {d : ℕ} {w : Value} :
    Builtin.round.apply [.whole n, .whole d] = .ok w ↔ ∃ x f z y,
      floatOfInt (n.natAbs * (10 ^ d : ℕ)) = .ok x ∧ (Number.float (x + 0.5)).floor = .ok f ∧
        quotient f (10 ^ d : ℕ) = .ok z ∧ floatOfInt (if 0 ≤ n then 1 else -1) = .ok y ∧
          .number (Number.float (z * y)).normalize = w := by
  -- The sign is taken from a comparison with zero.
  have sign : Number.atMost (.whole 0) (.whole n) = decide (0 ≤ n) := by
    rw [atMost_of_worth (worth_whole 0) (worth_whole n)]
    simp
  have factor : powerOfTen d = .ok (.whole (10 ^ d : ℕ)) := rfl
  have scaled : (Number.whole n).abs.mul (.whole (10 ^ d : ℕ)) =
      .ok (.whole (n.natAbs * (10 ^ d : ℕ))) := rfl
  -- Both arguments are numbers, so only the four steps that may fail are left.
  rw [Builtin.apply, round, Argument.finite?_whole, Argument.finite?_whole]
  simp only [roundHalfAway, truncate_whole, factor, scaled, sign, bind_eq_ok_iff, lift_eq_ok_iff,
    add_float, div_whole, float_mul, pure, Except.pure, Except.ok.injEq, exists_eq_left',
    exists_and_left, exists_exists_and_eq_and, decide_eq_true_eq]
  constructor
  · rintro ⟨_, ⟨x, scaled, f, floored, z, divided, y, signed, rfl⟩, rfl⟩
    exact ⟨x, scaled, f, floored, z, divided, y, signed, rfl⟩
  · rintro ⟨x, scaled, f, floored, z, divided, y, signed, rfl⟩
    exact ⟨_, ⟨x, scaled, f, floored, z, divided, y, signed, rfl⟩, rfl⟩

section Half

variable {x : Float} {k : ℤ}

/-- The floor of a whole double that is raised by a half: the next number for large odd ones. -/
def raise (k : ℤ) : ℤ :=
  -- From there on a half has no place of its own, and goes to the even side.
  if Odd k ∧ 2 ^ 52 ≤ k then k + 1 else k

/-- The number after one of 53 digits is left alone. -/
theorem rounding_next (small : k < 2 ^ 53) (nonneg : 0 ≤ k) :
    Double.Rounding (k + 1 : ℤ) (k + 1 : ℤ) := by
  -- The last number is the first one of 54 digits, and a power of two.
  rcases lt_or_eq_of_le (show k + 1 ≤ 2 ^ 53 from small) with less | full
  · exact .of_whole (by omega)
  · have power := Double.Rounding.of_short (s := 1) (e := 53) (by decide) (by decide)
    rw [full]
    norm_num at power ⊢
    exact power

/-- A half is worth a half. -/
theorem worth_half : Worth 0.5 (1 / 2) := ⟨2 ^ 52, -53, rfl, by norm_num⟩

/-- A whole double that is odd has 53 digits. -/
theorem lt_of_odd (nonneg : 0 ≤ k) (worth : Worth x k) (odd : Odd k) : k < 2 ^ 53 :=
  ((Double.rounding_of_worth worth).eq_of_odd nonneg odd).1

/-- Adding a half to a whole double and cutting it off again. -/
theorem floor_half (nonneg : 0 ≤ k) (worth : Worth x k) :
    (Number.float (x + 0.5)).floor = .ok (raise k) := by
  -- The sum is rounded: below 2 ^ 52 the half has a place of its own, above it decides between
  -- two neighbours.
  have rounds := Double.add_rounds worth worth_half
  have range : (2 : ℚ) ^ 60 < 2 ^ 1024 := pow_lt_pow_right₀ one_lt_two (by decide)
  rw [raise]
  rcases lt_or_ge k (2 ^ 52) with small | large
  · have size : |(k : ℚ) + 1 / 2| < 2 ^ 1024 := by
      have nonneg' : (0 : ℚ) ≤ k := by exact_mod_cast nonneg
      have small' : (k : ℚ) < 2 ^ 52 := by exact_mod_cast small
      refine lt_trans ?_ range
      rw [abs_of_nonneg (by linarith only [nonneg'])]
      linarith only [small']
    have half : (Number.float (x + 0.5)).Worth (k + 1 / 2) :=
      rounds.worth (.add_half_of_small nonneg small) size
    -- What was added is cut off again.
    have floor : ⌊(k : ℚ) + 1 / 2⌋ = k := by
      rw [Int.floor_intCast_add]
      norm_num
    rw [if_neg (fun ⟨_, large⟩ => absurd large (not_le.mpr small)), floor_of_worth half, floor]
  · -- A large double has no place for the half, so its parity tells which way it goes.
    rcases Int.even_or_odd k with even | odd
    · have self := Double.rounding_of_worth worth
      have same : (Number.float (x + 0.5)).Worth k :=
        rounds.worth (.add_half_of_even large even self) (Double.abs_lt_of_worth worth)
      rw [if_neg (fun ⟨odd, _⟩ => absurd even (Int.not_even_iff_odd.mpr odd)), floor_of_worth same,
        Int.floor_intCast]
    · -- Only a number of 53 digits at most is odd, and the one after it is a double.
      have few := lt_of_odd nonneg worth odd
      have size : |(k : ℚ) + 1| < 2 ^ 1024 := by
        have nonneg' : (0 : ℚ) ≤ k := by exact_mod_cast nonneg
        have few' : (k : ℚ) < 2 ^ 53 := by exact_mod_cast few
        refine lt_trans ?_ range
        rw [abs_of_nonneg (by linarith only [nonneg'])]
        linarith only [few']
      have next : (Number.float (x + 0.5)).Worth (k + 1) :=
        rounds.worth (.add_half_of_odd large few odd) size
      rw [if_pos ⟨odd, large⟩, floor_of_worth next, Int.floor_add_one, Int.floor_intCast]

end Half

section Whole

variable {n k : ℤ} {d : ℕ} {r : ℚ} {w : Value}

/-- The sign of a whole number, that of zero being positive. -/
def signOf (n : ℤ) : ℤ := if 0 ≤ n then 1 else -1

/-- A whole number is its sign times its size. -/
theorem signOf_mul_abs (n : ℤ) : (signOf n : ℚ) * |(n : ℚ)| = n := by
  -- The size of a number that is not negative is the number itself.
  rw [signOf]
  split
  · rename_i nonneg
    have nonneg' : (0 : ℚ) ≤ n := by exact_mod_cast nonneg
    rw [abs_of_nonneg nonneg', Int.cast_one, one_mul]
  · rename_i negative
    have negative' : (n : ℚ) < 0 := by exact_mod_cast not_le.mp negative
    rw [abs_of_neg negative', Int.cast_neg, Int.cast_one, neg_one_mul, neg_neg]

/-- A sign twice is none. -/
theorem signOf_mul_signOf (n : ℤ) (q : ℚ) : (signOf n : ℚ) * (signOf n * q) = q := by
  rw [signOf]
  split <;> simp

/-- A whole number times its sign is its size. -/
theorem signOf_mul_self (n : ℤ) : (signOf n : ℚ) * n = |(n : ℚ)| := by
  -- The size stands for the number without its sign, so the sign is taken off by another one.
  rw [← signOf_mul_signOf n |(n : ℚ)|, signOf_mul_abs]

/-- A sign has the size one. -/
theorem abs_signOf_mul (n : ℤ) (q : ℚ) : |(signOf n : ℚ) * q| = |q| := by
  rw [signOf]
  split <;> simp

/-- Numbers of either sign round alike. -/
theorem rounding_signOf_mul {q : ℚ} (n : ℤ) (rounding : Double.Rounding q r) :
    Double.Rounding (signOf n * q) (signOf n * r) := by
  -- Negating is all that a sign can do, and rounding commutes with it.
  rw [signOf]
  split
  · simpa using rounding
  · simpa using rounding.neg

/-- The scaled size of a whole number. -/
def scaled (n : ℤ) (d : ℕ) : ℤ := n.natAbs * (10 ^ d : ℕ)

/-- The scaled size is the size of the scaled number. -/
theorem cast_scaled (n : ℤ) (d : ℕ) : (scaled n d : ℚ) = |(n : ℚ)| * 10 ^ d := by
  rw [scaled, ← Int.abs_eq_natAbs]
  push_cast
  rfl

/-- The scaled size is not below zero. -/
theorem scaled_nonneg (n : ℤ) (d : ℕ) : 0 ≤ scaled n d := by
  rw [scaled]
  positivity

/-- The scaled size rounds to a whole number that is not below zero. -/
theorem exists_whole (rounding : Double.Rounding (scaled n d) r) : ∃ k : ℤ, r = k ∧ 0 ≤ k := by
  -- It is rounded either to itself or to a large whole number.
  rcases rounding.whole_cases (scaled_nonneg n d) with ⟨-, same⟩ | ⟨-, k, same, -, large⟩
  · exact ⟨_, same, scaled_nonneg n d⟩
  · exact ⟨k, same, by omega⟩

/-- A double times a sign is worth as much with this sign. -/
theorem worth_signed {z y : Float} (worth : Worth z r) (sign : Worth y (signOf n)) :
    Worth (z * y) (signOf n * r) := by
  -- The product with a sign is exact, as the other factor is a double already.
  have rounds := Double.mul_rounds worth sign
  rw [mul_comm] at rounds
  refine rounds.worth (rounding_signOf_mul n (Double.rounding_of_worth worth)) ?_
  rw [abs_signOf_mul]
  exact Double.abs_lt_of_worth worth

/-- A sign is converted as it is. -/
theorem exists_sign (n : ℤ) : ∃ y, floatOfInt (signOf n) = .ok y ∧ Worth y (signOf n) :=
  exists_floatOfInt (by rw [signOf]; split <;> decide)

/-- The quotient by a power of ten is rounded once. -/
theorem quotient_tens (k : ℤ) (d : ℕ) :
    Double.Converts (k / 10 ^ d) (quotient k (10 ^ d : ℕ)) := by
  -- A power of ten is not zero.
  have converts := quotient_converts k (show ((10 ^ d : ℕ) : ℤ) ≠ 0 by positivity)
  push_cast at converts ⊢
  exact converts

/-- A whole number that is rounded becomes a double: it is worth what the scaled size, as a double that
is raised by a half and cut off, rounds to when it is scaled back. -/
theorem round_ok (done : Builtin.round.apply [.whole n, .whole d] = .ok w) :
    ∃ (k : ℤ) (x : Float) (r : ℚ) (y : Float), 0 ≤ k ∧ Double.Rounding (scaled n d) k ∧ Worth x k ∧
      Double.Rounding (raise k / 10 ^ d) r ∧ Worth y (signOf n * r) ∧
        w = .number (Number.float y).normalize := by
  -- The double on the way is worth a whole number, as what it is rounded from is whole.
  obtain ⟨x, f, z, y, converted, floored, divided, signed, rfl⟩ := round_whole.mp done
  obtain ⟨p, scaledRounds, worth⟩ := (floatOfInt_converts (scaled n d)).exists_rounding converted
  obtain ⟨k, rfl, nonneg⟩ := exists_whole scaledRounds
  obtain rfl : raise k = f := Except.ok.inj ((floor_half nonneg worth).symm.trans floored)
  obtain ⟨r, rounding, worth'⟩ := (quotient_tens (raise k) d).exists_rounding divided
  -- The sign is exact, so the last product is too.
  obtain ⟨y', signed', sign⟩ := exists_sign n
  obtain rfl : y' = y := Except.ok.inj (signed'.symm.trans signed)
  exact ⟨k, x, r, _, nonneg, scaledRounds, worth, rounding, worth_signed worth' sign, rfl⟩

/-- A whole number is rounded if the two doubles on the way are in range. -/
theorem round_of_rounding (scaledRounds : Double.Rounding (scaled n d) k) (small : |(k : ℚ)| < 2 ^ 1024)
    (rounding : Double.Rounding (raise k / 10 ^ d) r) (small' : |r| < 2 ^ 1024) :
    ∃ y, Builtin.round.apply [.whole n, .whole d] = .ok (.number (Number.float y).normalize) ∧
      Worth y (signOf n * r) := by
  -- The same steps succeed if what they give is in range.
  obtain ⟨k', same, nonneg⟩ := exists_whole scaledRounds
  obtain rfl : k = k' := by exact_mod_cast same
  obtain ⟨x, converted, worth⟩ := (floatOfInt_converts (scaled n d)).exists_worth scaledRounds small
  obtain ⟨z, divided, worth'⟩ := (quotient_tens (raise k) d).exists_worth rounding small'
  obtain ⟨y, signed, sign⟩ := exists_sign n
  exact ⟨_, round_whole.mpr ⟨x, _, z, y, converted, floor_half nonneg worth, divided, signed, rfl⟩,
    worth_signed worth' sign⟩

/-- A double is raised to the next one only if it is the scaled size itself. -/
theorem scaled_eq_of_raise (scaledRounds : Double.Rounding (scaled n d) k) (odd : Odd k) :
    scaled n d = k :=
  (scaledRounds.eq_of_odd (scaled_nonneg n d) odd).2.symm

/-- The scaled size of a whole number is odd only if it is not scaled at all. -/
theorem decimals_of_odd (odd : Odd (scaled n d)) : d = 0 := by
  by_contra some
  -- Any power of ten but the first is even, and so is every product with it.
  have even : Even (10 ^ d) := Nat.even_pow.mpr ⟨by decide, some⟩
  have even' : Even (scaled n d) := by
    rw [scaled]
    exact (by exact_mod_cast even : Even ((10 ^ d : ℕ) : ℤ)).mul_left _
  exact absurd even' (Int.not_even_iff_odd.mpr odd)

/-- The scaled size moves by a share of `2 ^ -52` at most when it is raised as a double. -/
theorem raise_near (scaledRounds : Double.Rounding (scaled n d) k) :
    |(raise k : ℚ) - scaled n d| ≤ 2 * (scaled n d / 2 ^ 53) := by
  have nonneg : (0 : ℚ) ≤ scaled n d := by exact_mod_cast scaled_nonneg n d
  rw [raise]
  split
  · -- Only what the double kept exactly was raised, and from 2 ^ 52 on one is a small share.
    rename_i raised
    obtain ⟨odd, large⟩ := raised
    have same := scaled_eq_of_raise scaledRounds odd
    have large' : (2 ^ 52 : ℚ) ≤ scaled n d := by rw [same]; exact_mod_cast large
    rw [same] at large' ⊢
    rw [Int.cast_add, add_sub_cancel_left, Int.cast_one, abs_one]
    linarith only [large']
  · -- Otherwise only the rounding moves it.
    have near := scaledRounds.abs_sub_le_of_normal (Double.Rounding.normal_of_whole _)
    rw [abs_of_nonneg nonneg] at near
    linarith only [near, nonneg]

/-- The scaled number is the scaled size with its sign. -/
theorem signOf_mul_scaled (n : ℤ) (d : ℕ) : (signOf n : ℚ) * scaled n d = n * 10 ^ d := by
  rw [cast_scaled, ← mul_assoc, signOf_mul_abs]

/-- The size of the scaled number is the scaled size. -/
theorem abs_mul_pow (n : ℤ) (d : ℕ) : |n * 10 ^ d| = scaled n d := by
  rw [scaled, abs_mul, ← Int.abs_eq_natAbs, abs_of_pos (show (0 : ℤ) < 10 ^ d by positivity)]
  push_cast
  rfl

/-- Where a number is kept, the double on the way is not raised to the next one. -/
theorem raise_of_kept {x : Float} (nonneg : 0 ≤ k) (scaledRounds : Double.Rounding (scaled n d) k)
    (worth : Worth x k) (rounding : Double.Rounding (raise k / 10 ^ d) |(n : ℚ)|) : raise k = k := by
  rw [raise, if_neg]
  rintro ⟨odd, large⟩
  -- The number itself would be raised, and the next one is a double, too.
  have same := scaled_eq_of_raise scaledRounds odd
  obtain rfl := decimals_of_odd (same ▸ odd)
  have next := rounding_next (lt_of_odd nonneg worth odd) nonneg
  rw [raise, if_pos ⟨odd, large⟩, pow_zero, div_one] at rounding
  have raised := rounding.unique next
  have whole := cast_scaled n 0
  rw [pow_zero, mul_one, same, raised, Int.cast_add, Int.cast_one] at whole
  linarith only [whole]

/-- Where an odd number is kept, it is small. -/
theorem lt_of_kept {x : Float} (worth : Worth x k) (rounding : Double.Rounding (k / 10 ^ d) |(n : ℚ)|)
    (still : raise k = k) (odd : Odd (scaled n d)) : scaled n d < 2 ^ 52 := by
  by_contra large
  obtain rfl := decimals_of_odd odd
  -- Not scaled, it is the double on the way, and would be raised.
  rw [pow_zero, div_one] at rounding
  have itself := rounding.unique (Double.rounding_of_worth worth)
  rw [← mul_one |(n : ℚ)|, ← pow_zero 10, ← cast_scaled] at itself
  obtain rfl : scaled n 0 = k := by exact_mod_cast itself
  rw [raise, if_pos ⟨odd, not_lt.mp large⟩] at still
  omega

/-- A whole number is rounded to itself exactly if the double nearest to the scaled number gives it back
when it is scaled back, and if it is not one of the large odd numbers. -/
theorem round_keeps_iff : Builtin.round.apply [.whole n, .whole d] = .ok (.whole n) ↔
    ∃ r : ℚ, Double.Rounding (n * 10 ^ d) r ∧ |r| < 2 ^ 1024 ∧
      Double.Rounding (r / 10 ^ d) n ∧ |(n : ℚ)| < 2 ^ 1024 ∧
        (Odd (n * 10 ^ d) → |n * 10 ^ d| < 2 ^ 52) := by
  -- The scaled size is what the steps work with, so the conditions are put in terms of it.
  rw [← odd_abs, abs_mul_pow]
  constructor
  · -- The steps tell all the roundings, and normalizing keeps what the result is worth.
    intro kept
    obtain ⟨k, x, r, y, nonneg, scaledRounds, worth, rounding, worth', result⟩ := round_ok kept
    have normal : (Number.float y).normalize = .whole n := (Value.number.inj result).symm
    have signed : (signOf n : ℚ) * r = n := worth'.unique (worth_of_normalize normal)
    obtain rfl : r = |(n : ℚ)| := by rw [← signOf_mul_signOf n r, signed, signOf_mul_self]
    have still := raise_of_kept nonneg scaledRounds worth rounding
    rw [still] at rounding
    refine ⟨signOf n * k, ?_, ?_, ?_, ?_, lt_of_kept worth rounding still⟩
    · rw [← signOf_mul_scaled]
      exact rounding_signOf_mul n scaledRounds
    · rw [abs_signOf_mul]
      exact Double.abs_lt_of_worth worth
    · have back := rounding_signOf_mul n rounding
      rw [signed, ← mul_div_assoc] at back
      exact back
    · exact Double.abs_lt_of_worth (worth_of_normalize normal)
  · -- The other way round the roundings make every step succeed with the number itself.
    rintro ⟨r, rounds, small, rounding, small', steady⟩
    have scaledRounds := rounding_signOf_mul n rounds
    rw [← signOf_mul_scaled, signOf_mul_signOf] at scaledRounds
    obtain ⟨k, same, nonneg⟩ := exists_whole scaledRounds
    rw [same] at scaledRounds
    -- A raised double would be odd and large, which the last condition excludes.
    have still : raise k = k := by
      rw [raise, if_neg]
      rintro ⟨odd, large⟩
      have whole := scaled_eq_of_raise scaledRounds odd
      have few := steady (whole ▸ odd)
      omega
    have back := rounding_signOf_mul n rounding
    rw [← mul_div_assoc, same, signOf_mul_self, ← still] at back
    have range : |(k : ℚ)| < 2 ^ 1024 := by
      rw [← same, abs_signOf_mul]
      exact small
    obtain ⟨y, done, worth⟩ := round_of_rounding scaledRounds range back (by rw [abs_abs]; exact small')
    rw [signOf_mul_abs] at worth
    have normal : (Number.float y).normalize = .whole n := normalize_of_worth worth
    rw [done, normal]

/-- Powers of five and of two part the digits of a number that both of them make. -/
theorem exists_digits {s : ℤ} {l : ℕ} (digits : n * 5 ^ d = s * 2 ^ l) :
    ∃ t, s = 5 ^ d * t ∧ n = t * 2 ^ l := by
  -- The powers have no common factor, so one of them divides what the other one leaves.
  have coprime : IsCoprime ((5 : ℤ) ^ d) (2 ^ l) := IsCoprime.pow ⟨1, -2, by decide⟩
  obtain ⟨t, rfl⟩ := coprime.dvd_of_dvd_mul_right (digits ▸ dvd_mul_left _ n)
  refine ⟨t, rfl, mul_right_cancel₀ (show (5 : ℤ) ^ d ≠ 0 by positivity) ?_⟩
  rw [digits]
  ring

/-- A whole number is a double if the scaled number is one. -/
theorem rounding_of_scaled {x : Float} (worth : Worth x (n * 10 ^ d)) : Double.Rounding n n := by
  -- The scaled number has few digits in front of a power of two.
  obtain ⟨s, e, short, -, -, value⟩ := Double.exists_short_of_worth worth
  have tens : (n : ℚ) * 10 ^ d = n * 5 ^ d * 2 ^ d := by
    rw [mul_assoc, ← mul_pow]
    norm_num
  have twos : (2 : ℚ) ^ d ≠ 0 := by positivity
  rw [tens] at value
  -- The digits of the scaled number are those of the number times a power of five.
  rcases lt_or_ge e d with low | high
  · obtain ⟨l, rfl⟩ : ∃ l : ℕ, e = d - l := ⟨(d - e).toNat, by omega⟩
    rw [zpow_sub₀ two_ne_zero, zpow_natCast, zpow_natCast, mul_div_assoc',
      eq_div_iff (by positivity)] at value
    have digits : s = n * (5 ^ d * 2 ^ l) := by
      have shared : (s : ℚ) * 2 ^ d = n * (5 ^ d * 2 ^ l) * 2 ^ d := by rw [← value]; ring
      exact_mod_cast mul_right_cancel₀ twos shared
    rw [digits, Int.natAbs_mul] at short
    exact .of_whole ((Nat.le_mul_of_pos_right _ (by positivity)).trans_lt short)
  · -- Enough powers of two are left to take those of ten apart.
    obtain ⟨l, rfl⟩ : ∃ l : ℕ, e = l + d := ⟨(e - d).toNat, by omega⟩
    rw [zpow_add₀ two_ne_zero, zpow_natCast, zpow_natCast, ← mul_assoc] at value
    have digits : n * 5 ^ d = s * 2 ^ l := by exact_mod_cast mul_right_cancel₀ twos value
    obtain ⟨t, rfl, same⟩ := exists_digits digits
    rw [Int.natAbs_mul] at short
    have power := Double.Rounding.of_short (s := t) (e := l)
      ((Nat.le_mul_of_pos_left _ (by positivity)).trans_lt short) (by rw [Double.leastExponent]; omega)
    rw [zpow_natCast] at power
    rw [same]
    push_cast
    exact power

/-- Scaled back, what the scaled size is raised to is next to the size. -/
theorem raise_div_near (scaledRounds : Double.Rounding (scaled n d) k) :
    |(raise k / 10 ^ d - |(n : ℚ)| : ℚ)| ≤ 2 * (|(n : ℚ)| / 2 ^ 53) := by
  -- Scaling back divides what the scaled size was moved by.
  have unit : (0 : ℚ) < 10 ^ d := by positivity
  have scaledBack : (scaled n d : ℚ) / 10 ^ d = |(n : ℚ)| := by
    rw [cast_scaled, mul_div_cancel_right₀ _ unit.ne']
  rw [← scaledBack, ← sub_div, abs_div, abs_of_pos unit, div_le_iff₀ unit]
  refine (raise_near scaledRounds).trans (le_of_eq ?_)
  field_simp

/-- What is next to the size of a whole number is zero or no smaller than the least normal double. -/
theorem normal_of_near {q : ℚ} (near : |(q - |(n : ℚ)|)| ≤ 2 * (|(n : ℚ)| / 2 ^ 53)) :
    q = 0 ∨ 2 ^ (-1022 : ℤ) ≤ |q| := by
  -- Zero stays zero; anything else is half a unit at least.
  rcases eq_or_ne n 0 with rfl | some
  · left
    simpa using near
  · right
    have one : (1 : ℚ) ≤ |(n : ℚ)| := by exact_mod_cast Int.one_le_abs some
    have half : (2 : ℚ) ^ (-1022 : ℤ) ≤ 1 / 2 := by
      rw [one_div, ← zpow_neg_one]
      exact zpow_le_zpow_right₀ one_le_two (by decide)
    have triangle := abs_sub_abs_le_abs_sub |(n : ℚ)| q
    rw [abs_sub_comm, abs_abs] at triangle
    linarith only [triangle, near, one, half]

/-- A whole number that is rounded moves by a share of `2 ^ -51` at most. -/
theorem round_near (done : Builtin.round.apply [.whole n, .whole d] = .ok w) :
    ∃ a r, w = .number a ∧ a.Worth r ∧ |r - n| ≤ |(n : ℚ)| / 2 ^ 51 := by
  obtain ⟨k, x, r, y, nonneg, scaledRounds, worth, rounding, worth', rfl⟩ := round_ok done
  have worthFloat : (Number.float y).Worth (signOf n * r) := worth'
  refine ⟨_, _, rfl, normalize_worth worthFloat, ?_⟩
  -- The sign takes no part in the distance.
  have signed : (signOf n : ℚ) * r - n = signOf n * (r - |(n : ℚ)|) := by
    rw [mul_sub, signOf_mul_abs]
  -- First the double on the way is raised and scaled back, then the quotient is rounded.
  have raised := raise_div_near scaledRounds
  have moved := rounding.abs_sub_le_of_normal (normal_of_near raised)
  have reach := abs_sub_abs_le_abs_sub (raise k / 10 ^ d : ℚ) |(n : ℚ)|
  have triangle := abs_sub_le r (raise k / 10 ^ d : ℚ) |(n : ℚ)|
  rw [abs_abs] at reach
  rw [signed, abs_signOf_mul]
  linarith only [raised, moved, reach, triangle, abs_nonneg (n : ℚ)]

/-- A whole number that is not too large is rounded. -/
theorem exists_round (small : |n * 10 ^ d| ≤ 2 ^ 1022) :
    ∃ w, Builtin.round.apply [.whole n, .whole d] = .ok w := by
  -- Both doubles on the way are in range, so every step succeeds.
  rw [abs_mul_pow] at small
  have nonneg : (0 : ℚ) ≤ scaled n d := by exact_mod_cast scaled_nonneg n d
  have small' : (scaled n d : ℚ) ≤ 2 ^ 1022 := by
    have cast := (Int.cast_le (R := ℚ)).mpr small
    rw [Int.cast_pow, Int.cast_ofNat] at cast
    exact cast
  have range : (scaled n d : ℚ) * 2 ≤ 2 ^ 1023 := by
    rw [pow_succ]
    gcongr
  obtain ⟨x, p, -, scaledRounds, worth⟩ := (floatOfInt_converts (scaled n d)).exists_near (by
    rw [abs_of_nonneg nonneg]
    exact (le_mul_of_one_le_right nonneg one_le_two).trans range)
  obtain ⟨k, rfl, -⟩ := exists_whole scaledRounds
  -- The double on the way is at most twice the scaled size, and scaling back makes nothing larger.
  obtain ⟨z, r, -, rounding, worth'⟩ := (quotient_tens (raise k) d).exists_near (by
    have near := raise_near scaledRounds
    have reach := abs_sub_abs_le_abs_sub (raise k : ℚ) (scaled n d)
    rw [abs_of_nonneg nonneg] at reach
    have one : (1 : ℚ) ≤ |(10 : ℚ) ^ d| := by
      rw [abs_of_pos (by positivity)]
      exact one_le_pow₀ (by norm_num)
    rw [abs_div]
    refine (div_le_self (abs_nonneg _) one).trans (le_trans ?_ range)
    linarith only [near, reach, nonneg])
  obtain ⟨y, done, -⟩ := round_of_rounding scaledRounds (Double.abs_lt_of_worth worth) rounding
    (Double.abs_lt_of_worth worth')
  exact ⟨_, done⟩

end Whole

/-- A whole number is its own ceiling as a function gives it. -/
theorem ceiling_whole (n : ℤ) : Builtin.ceiling.apply [.whole n] = .ok (.whole n) := by
  rw [Builtin.apply, ceiling, onFinite, Argument.finite?_whole]
  -- Only the last step is left, which is exact.
  show (liftM (Number.whole n).ceil >>= fun m => pure (.whole m) : Except Failure Value) = _
  rw [ceil_whole]
  rfl

/-- A whole number is its own floor as a function gives it. -/
theorem floor_whole (n : ℤ) : Builtin.floor.apply [.whole n] = .ok (.whole n) := by
  rw [Builtin.apply, floor, onFinite, Argument.finite?_whole]
  -- Only the last step is left, which is exact.
  show (liftM (Number.whole n).floor >>= fun m => pure (.whole m) : Except Failure Value) = _
  rw [Number.floor_whole]
  rfl

/-- What the three ways to round make of whole numbers. Floor and ceiling keep all of them. Rounding to
decimals keeps a number exactly if the double nearest to the scaled number gives it back when it is
scaled back, large odd numbers apart; so it keeps all those whose scaled number is a double. Whatever it
gives is next to the number, and it gives something as long as the scaled number is well in range. -/
theorem wholes_rounded (n : ℤ) (d : ℕ) :
    Builtin.ceiling.apply [.whole n] = .ok (.whole n) ∧
    Builtin.floor.apply [.whole n] = .ok (.whole n) ∧
    (Builtin.round.apply [.whole n, .whole d] = .ok (.whole n) ↔
      ∃ r : ℚ, Double.Rounding (n * 10 ^ d) r ∧ |r| < 2 ^ 1024 ∧
        Double.Rounding (r / 10 ^ d) n ∧ |(n : ℚ)| < 2 ^ 1024 ∧
          (Odd (n * 10 ^ d) → |n * 10 ^ d| < 2 ^ 52)) ∧
    ((∃ x : Float, Double.Worth x (n * 10 ^ d)) → (Odd (n * 10 ^ d) → |n * 10 ^ d| < 2 ^ 52) →
      Builtin.round.apply [.whole n, .whole d] = .ok (.whole n)) ∧
    (∀ w, Builtin.round.apply [.whole n, .whole d] = .ok w →
      ∃ a r, w = .number a ∧ a.Worth r ∧ |r - n| ≤ |(n : ℚ)| / 2 ^ 51) ∧
    (|n * 10 ^ d| ≤ 2 ^ 1022 → ∃ w, Builtin.round.apply [.whole n, .whole d] = .ok w) := by
  refine ⟨ceiling_whole n, floor_whole n, round_keeps_iff, ?_, fun w => round_near, exists_round⟩
  -- If the scaled number is a double it is its own rounding, and scaling it back gives the number.
  rintro ⟨x, worth⟩ steady
  have range := Double.abs_lt_of_worth worth
  have unit : (1 : ℚ) ≤ |10 ^ d| := by
    rw [abs_of_pos (by positivity)]
    exact one_le_pow₀ (by norm_num)
  have back : (n : ℚ) * 10 ^ d / 10 ^ d = n := mul_div_cancel_right₀ _ (by positivity)
  refine round_keeps_iff.mpr ⟨_, Double.rounding_of_worth worth, range, ?_, ?_, steady⟩
  · rw [back]
    exact rounding_of_scaled worth
  · -- The number is no larger than the scaled one.
    rw [abs_mul] at range
    exact (le_mul_of_one_le_right (abs_nonneg _) unit).trans_lt range

/-- A dozen is kept to two decimals, since twelve hundred is a double. -/
theorem wholes_rounded_dozen : (∃ x : Float, Double.Worth x ((12 : ℤ) * 10 ^ 2)) ∧
    (Odd (12 * 10 ^ 2 : ℤ) → |(12 * 10 ^ 2 : ℤ)| < 2 ^ 52) ∧
    Builtin.round.apply [.whole 12, .whole (2 : ℕ)] = .ok (.whole 12) := by
  have double : ∃ x : Float, Double.Worth x ((12 : ℤ) * 10 ^ 2) := by
    obtain ⟨x, -, worth⟩ := exists_floatOfInt (n := 1200) (by decide)
    exact ⟨x, by norm_num at worth ⊢; exact worth⟩
  have steady : Odd (12 * 10 ^ 2 : ℤ) → |(12 * 10 ^ 2 : ℤ)| < 2 ^ 52 := by decide
  exact ⟨double, steady, (wholes_rounded 12 2).2.2.2.1 double steady⟩

/-- A number of six digits that is rounded to fifteen decimals is no whole number any more. -/
theorem whole_moved : ¬ ∀ n d : ℤ, 0 ≤ d → d ≤ 15 →
    Builtin.round.apply [.whole n, .whole d] = .ok (.whole n) := by
  intro kept
  have same := kept 295149 15 (by decide) (by decide)
  cases same

end Spreadsheet.Rounding
