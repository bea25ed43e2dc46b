import Spreadsheet.Function.Builtin
import Spreadsheet.Proofs.Function.Argument
import Spreadsheet.Proofs.Number.Arithmetic

/-!
Damage against its formula. The share that is let through is rounded before it is multiplied, so the
damage is the floor of a number next to the exact quotient, not always that of the quotient.
-/

namespace Spreadsheet.Game

open Double (Rounding Worth)
open Number

variable {a d : ℤ}

/-- The damage of a whole attack: the share is rounded, then the attack, then their product. -/
theorem damage_whole {w : Value} (proper : d ≠ -100) :
    Builtin.damageCalc.apply [.whole a, .whole d] = .ok w ↔ ∃ share attack n,
      quotient 100 (100 + d) = .ok share ∧ floatOfInt a = .ok attack ∧
        (Number.float (attack * share)).floor = .ok n ∧ .whole n = w := by
  -- The defense that is excluded is the only one that is refused.
  have other : (Number.whole d).same (.whole (-100)) = false := by
    rw [same_of_worth (worth_whole d) (worth_whole (-100))]
    exact decide_eq_false (by exact_mod_cast proper)
  have sum : (Number.whole 100).add (.whole d) = .ok (.whole (100 + d)) := rfl
  -- Step by step: the arguments are numbers, their sum is exact, and three steps may fail.
  rw [Builtin.apply, damage, Argument.finite?_whole, Argument.finite?_whole]
  simp only [other, sum, if_neg Bool.false_ne_true, bind_eq_ok_iff, lift_eq_ok_iff, div_whole,
    mul_float, pure, Except.pure, Except.ok.injEq, exists_eq_left', exists_and_left,
    exists_exists_and_eq_and]

section Error

variable {t attack share product : ℚ}

/-- A product moves by what its factors move. -/
theorem abs_mul_sub_mul_le (a t attack share : ℚ) :
    |attack * share - a * t| ≤ |attack| * |share - t| + |attack - a| * |t| := by
  -- The change of the product splits into that of the share and that of the attack.
  calc |attack * share - a * t| = |attack * (share - t) + (attack - a) * t| := by congr 1; ring
    _ ≤ |attack| * |share - t| + |attack - a| * |t| := by
      rw [← abs_mul, ← abs_mul]
      exact abs_add_le _ _

/-- The roundings of attack and share move the product by shares of `2 ^ -53`, and by a little more where
the share is too small to keep its digits. -/
theorem factors_near (attackRounds : Rounding a attack) (shareRounds : Rounding t share)
    (inRange : |attack| < 2 ^ 1024) :
    |attack * share - a * t| ≤ (|a * t| + |a * t| / 2 ^ 53 + 4) / 2 ^ 53 + |a * t| / 2 ^ 53 := by
  have least : (0 : ℚ) < 2 ^ (-1022 : ℤ) := zpow_pos two_pos _
  -- A whole attack is never subnormal, so it loses a share of its own size only.
  have first := attackRounds.abs_sub_le_of_normal (Rounding.normal_of_whole a)
  -- The share may be subnormal: then it loses up to a share of the least normal double.
  have second : |share - t| ≤ (|t| + 2 ^ (-1022 : ℤ)) / 2 ^ 53 :=
    shareRounds.abs_sub_le.trans (by gcongr; exact max_le_add_of_nonneg (abs_nonneg t) least.le)
  -- The largest attack does not lift what the share may have lost above four.
  have lost : |attack| * 2 ^ (-1022 : ℤ) ≤ 4 := by
    have range : (4 : ℚ) = 2 ^ 1024 * 2 ^ (-1022 : ℤ) := by
      rw [← zpow_natCast, ← zpow_add₀ two_ne_zero]
      norm_num
    rw [range]
    exact mul_le_mul_of_nonneg_right inRange.le least.le
  -- The rounded attack is larger than the exact one by a share of it at most.
  have size : |attack| * |t| ≤ |a * t| + |a * t| / 2 ^ 53 := by
    have grown : |attack| ≤ |(a : ℚ)| + |(a : ℚ)| / 2 ^ 53 := by
      linarith only [abs_sub_abs_le_abs_sub attack a, first]
    calc |attack| * |t| ≤ (|(a : ℚ)| + |(a : ℚ)| / 2 ^ 53) * |t| := by gcongr
      _ = |a * t| + |a * t| / 2 ^ 53 := by rw [abs_mul]; ring
  -- Both losses are put into the split of the product.
  calc |attack * share - a * t| ≤ |attack| * |share - t| + |attack - a| * |t| :=
        abs_mul_sub_mul_le _ _ _ _
    _ ≤ |attack| * ((|t| + 2 ^ (-1022 : ℤ)) / 2 ^ 53) + |(a : ℚ)| / 2 ^ 53 * |t| := by gcongr
    _ = (|attack| * |t| + |attack| * 2 ^ (-1022 : ℤ)) / 2 ^ 53 + |a * t| / 2 ^ 53 := by
      rw [abs_mul]; ring
    _ ≤ (|a * t| + |a * t| / 2 ^ 53 + 4) / 2 ^ 53 + |a * t| / 2 ^ 53 := by gcongr

/-- Three roundings move the product by a share of `2 ^ -50`, and by that much again where the share is
too small to keep its digits. -/
theorem product_near (attackRounds : Rounding a attack) (shareRounds : Rounding t share)
    (productRounds : Rounding (attack * share) product) (inRange : |attack| < 2 ^ 1024) :
    |product - a * t| ≤ (|a * t| + 1) / 2 ^ 50 := by
  -- The factors are rounded first, then their product.
  have moved := factors_near attackRounds shareRounds inRange
  have last : |product - attack * share| ≤ (|attack * share| + 1) / 2 ^ 53 := by
    refine productRounds.abs_sub_le.trans ?_
    gcongr
    exact max_le (le_add_of_nonneg_right zero_le_one)
      (Rounding.leastNormal_le_one.trans (le_add_of_nonneg_left (abs_nonneg _)))
  have nonneg := abs_nonneg ((a : ℚ) * t)
  -- The product of the rounded factors is itself bounded by the exact one and what was lost.
  have reach : |attack * share| ≤ |a * t| + |attack * share - a * t| := by
    linarith only [abs_sub_abs_le_abs_sub (attack * share) (a * t)]
  have triangle := abs_sub_le product (attack * share) (a * t)
  -- With names for the four sizes the rest is linear.
  generalize |attack * share - a * t| = x at *
  generalize |product - attack * share| = y at *
  generalize |attack * share| = z at *
  generalize |(a : ℚ) * t| = q at *
  linarith only [last, moved, nonneg, reach, triangle]

/-- A share of a hundred that is not too small is far from the least normal double. -/
theorem normal_of_share {s : ℤ} (some : s ≠ 0) (most : |s| ≤ 2 ^ 1000) :
    (2 : ℚ) ^ (-1022 : ℤ) ≤ |(100 / s : ℚ)| / 2 := by
  -- The largest divisor allowed still leaves a share far above the subnormal doubles.
  have pos : (0 : ℚ) < |(s : ℚ)| := by exact_mod_cast abs_pos.mpr some
  have most' : |(s : ℚ)| ≤ 2 ^ (1000 : ℤ) := by
    have cast := (Int.cast_le (R := ℚ)).mpr most
    rw [Int.cast_abs, Int.cast_pow, Int.cast_ofNat, ← zpow_natCast] at cast
    exact cast
  rw [abs_div, abs_of_pos (show (0 : ℚ) < 100 by norm_num), div_div, le_div_iff₀ (by positivity)]
  calc (2 : ℚ) ^ (-1022 : ℤ) * (|(s : ℚ)| * 2) ≤ 2 ^ (-1022 : ℤ) * (2 ^ (1000 : ℤ) * 2) := by gcongr
    _ = 2 ^ (-21 : ℤ) := by rw [← zpow_add_one₀ two_ne_zero, ← zpow_add₀ two_ne_zero]; norm_num
    _ ≤ 100 := by norm_num

/-- A share of a hundred is a hundred at most. -/
theorem abs_share_le {s : ℤ} (some : s ≠ 0) : |(100 / s : ℚ)| ≤ 100 := by
  -- A divisor other than zero is one at least, since it is whole.
  have one : (1 : ℚ) ≤ |(s : ℚ)| := by exact_mod_cast Int.one_le_abs some
  rw [abs_div, abs_of_pos (show (0 : ℚ) < 100 by norm_num)]
  exact div_le_self (by norm_num) one

/-- The rounded share is not far from the exact one. -/
theorem rounded_share {s : ℤ} (some : s ≠ 0) (most : |s| ≤ 2 ^ 1000)
    (shareRounds : Rounding (100 / s) share) :
    |share - 100 / s| ≤ |(100 / s : ℚ)| / 2 ^ 53 ∧ 2 ^ (-1022 : ℤ) ≤ |share| ∧ |share| ≤ 2 ^ 9 := by
  -- The share is normal, so its rounding moves it by a share of itself.
  have normal := normal_of_share some most
  have least : (0 : ℚ) < 2 ^ (-1022 : ℤ) := zpow_pos two_pos _
  have moved : |share - 100 / s| ≤ |(100 / s : ℚ)| / 2 ^ 53 :=
    shareRounds.abs_sub_le_of_normal (.inr (by linarith only [normal, least]))
  -- What it moves bounds it from both sides.
  have down := abs_sub_abs_le_abs_sub (100 / s : ℚ) share
  rw [abs_sub_comm] at down
  have up := abs_sub_abs_le_abs_sub share (100 / s : ℚ)
  have size := abs_share_le some
  exact ⟨moved, by linarith only [normal, least, moved, down], by linarith only [moved, up, size]⟩

/-- For attacks that are not too large the three roundings move the quotient by less than it lies from
any other whole number. -/
theorem product_close {s : ℤ} (some : s ≠ 0) (most : |s| ≤ 2 ^ 1000) (small : |a * 100| < 2 ^ 51)
    (shareRounds : Rounding (100 / s) share) (productRounds : Rounding (a * share) product) :
    |product - a * 100 / s| < 1 / |(s : ℚ)| := by
  -- The three errors are shares of the quotient, which is below 2 ^ 51 parts of the divisor.
  have pos : (0 : ℚ) < |(s : ℚ)| := by exact_mod_cast abs_pos.mpr some
  obtain ⟨first, normal, -⟩ := rounded_share some most shareRounds
  have second : |product - a * share| ≤ |a * share| / 2 ^ 53 := by
    refine productRounds.abs_sub_le_of_normal ?_
    -- A product with zero is exact, any other one is no smaller than the share, which is normal.
    rcases eq_or_ne a 0 with rfl | attacks
    · exact .inl (by simp)
    · right
      have one : (1 : ℚ) ≤ |(a : ℚ)| := by exact_mod_cast Int.one_le_abs attacks
      calc (2 : ℚ) ^ (-1022 : ℤ) ≤ |share| := normal
        _ ≤ |(a : ℚ)| * |share| := le_mul_of_one_le_left (abs_nonneg _) one
        _ = |a * share| := (abs_mul _ _).symm
  -- The error of the share grows with the attack to the same share of the quotient.
  have moved : |a * share - a * 100 / s| ≤ |(a * 100 / s : ℚ)| / 2 ^ 53 := by
    calc |(a * share - a * 100 / s : ℚ)| = |(a : ℚ)| * |share - 100 / s| := by
          rw [← abs_mul]; congr 1; ring
      _ ≤ |(a : ℚ)| * (|(100 / s : ℚ)| / 2 ^ 53) := by gcongr
      _ = |(a * 100 / s : ℚ)| / 2 ^ 53 := by rw [mul_div_assoc (a : ℚ), abs_mul]; ring
  -- This is where the bound of the attack is needed.
  have quotient : |(a * 100 / s : ℚ)| < 2 ^ 51 * (1 / |(s : ℚ)|) := by
    have small' : |(a * 100 : ℚ)| < 2 ^ 51 := by exact_mod_cast small
    rw [abs_div, ← div_eq_mul_one_div]
    gcongr
  have reach := abs_sub_abs_le_abs_sub (a * share : ℚ) (a * 100 / s)
  have triangle := abs_sub_le product (a * share) (a * 100 / s)
  -- With names for the sizes the rest is linear.
  generalize |(a * share - a * 100 / s : ℚ)| = x at *
  generalize |product - a * share| = y at *
  generalize |(a * share : ℚ)| = z at *
  generalize |(a * 100 / s : ℚ)| = q at *
  have unit : 0 < 1 / |(s : ℚ)| := by positivity
  generalize 1 / |(s : ℚ)| = u at *
  linarith only [second, moved, quotient, reach, triangle, unit]

end Error

/-- A quotient that is no given whole number is at least one part of its divisor away from it. -/
theorem one_div_le_of_ne {m s n : ℤ} (some : s ≠ 0) (other : (m / s : ℚ) ≠ n) :
    1 / |(s : ℚ)| ≤ |(m / s : ℚ) - n| := by
  -- In parts of the divisor both numbers are whole, so they differ by one part at least.
  have exact : (s : ℚ) ≠ 0 := by exact_mod_cast some
  have apart : m - n * s ≠ 0 := by
    intro same
    have equal : (m : ℚ) = n * s := by exact_mod_cast sub_eq_zero.mp same
    exact other (by rw [equal, mul_div_cancel_right₀ _ exact])
  have one : (1 : ℚ) ≤ |(m - n * s : ℚ)| := by exact_mod_cast Int.one_le_abs apart
  calc 1 / |(s : ℚ)| ≤ |(m - n * s : ℚ)| / |(s : ℚ)| := by gcongr
    _ = |(m / s : ℚ) - n| := by rw [← abs_div, sub_div, mul_div_cancel_right₀ _ exact]

/-- The floor of a number next to a quotient is that of the quotient, unless the quotient is whole and
the number below it. -/
theorem floor_of_near {p : ℚ} {m s : ℤ} (some : s ≠ 0) (near : |p - m / s| < 1 / |(s : ℚ)|) :
    ⌊p⌋ = ⌊(m / s : ℚ)⌋ ∨ (⌊p⌋ : ℚ) + 1 = m / s := by
  -- The number is less than one part of the divisor away from the quotient, on either side.
  obtain ⟨below, above⟩ := abs_lt.mp near
  have low := Int.floor_le p
  have high := Int.lt_floor_add_one p
  rcases lt_trichotomy ⌊p⌋ ⌊(m / s : ℚ)⌋ with less | same | more
  · -- Below the quotient there is room for the next whole number only if it is the quotient.
    right
    have next : ((⌊p⌋ + 1 : ℤ) : ℚ) ≤ m / s := Int.le_floor.mp less
    by_contra other
    have apart := one_div_le_of_ne some (n := ⌊p⌋ + 1) (by push_cast; exact Ne.symm other)
    rw [abs_of_nonneg (sub_nonneg.mpr next)] at apart
    push_cast at apart
    linarith only [below, high, apart]
  · exact .inl same
  · -- Above the quotient no whole number is as near as that.
    have next : (m / s : ℚ) < ⌊p⌋ := Int.floor_lt.mp more
    have apart := one_div_le_of_ne some next.ne
    rw [abs_of_neg (sub_neg.mpr next)] at apart
    linarith only [above, low, apart]

/-- The sum of a hundred and a whole defense is exact. -/
theorem cast_divisor (d : ℤ) : ((100 + d : ℤ) : ℚ) = 100 + d := by
  push_cast
  rfl

/-- The damage is the floor of what the three roundings make of the quotient. -/
theorem damage_rounds {w : Value} (proper : d ≠ -100)
    (done : Builtin.damageCalc.apply [.whole a, .whole d] = .ok w) :
    ∃ share attack product : ℚ, Rounding (100 / (100 + d)) share ∧ Rounding a attack ∧
      Rounding (attack * share) product ∧ w = .whole ⌊product⌋ ∧
        |product - a * 100 / (100 + d)| ≤ (|(a * 100 / (100 + d) : ℚ)| + 1) / 2 ^ 50 := by
  -- Each of the three steps gives a double that is worth a rounding of its exact result.
  obtain ⟨share, attack, n, shared, attacked, floored, rfl⟩ := (damage_whole proper).mp done
  have some : 100 + d ≠ 0 := by omega
  obtain ⟨s, shareRounds, shareWorth⟩ := (quotient_converts 100 some).exists_rounding shared
  obtain ⟨b, attackRounds, attackWorth⟩ := (floatOfInt_converts a).exists_rounding attacked
  -- The floor is that of what the last double is worth, which the second rounding tells.
  obtain ⟨p, worth, rfl⟩ := exists_worth_of_floor floored
  obtain ⟨q, productRounds, worth'⟩ :=
    (Double.mul_rounds attackWorth shareWorth).exists_worth (Double.isInf_of_worth worth)
  obtain rfl : p = q := worth.unique worth'
  rw [Int.cast_ofNat, cast_divisor] at shareRounds
  -- The attack is a double, so it is in range, which is all that the error bound asks for.
  have inRange := Double.abs_lt_of_worth attackWorth
  have near := product_near attackRounds shareRounds productRounds inRange
  rw [← mul_div_assoc] at near
  exact ⟨s, b, p, shareRounds, attackRounds, productRounds, rfl, near⟩

/-- An attack that is not too large does the damage of the quotient, or one less if that is whole. -/
theorem exists_damage (proper : d ≠ -100) (small : |a * 100| < 2 ^ 51)
    (most : |100 + d| ≤ 2 ^ 1000) :
    ∃ n : ℤ, Builtin.damageCalc.apply [.whole a, .whole d] = .ok (.whole n) ∧
      (n = ⌊(a * 100 / (100 + d) : ℚ)⌋ ∨ (n : ℚ) + 1 = a * 100 / (100 + d)) := by
  -- None of the three steps leaves the range of doubles, so each of them gives a number.
  have some : 100 + d ≠ 0 := by omega
  have range : (2 : ℚ) ^ 60 ≤ 2 ^ 1023 := pow_le_pow_right₀ one_le_two (by decide)
  have whole : |a| < 2 ^ 51 := by
    rw [abs_lt] at small ⊢
    omega
  have attackSize : |(a : ℚ)| ≤ 2 ^ 51 := by exact_mod_cast whole.le
  have shareSize := abs_share_le some
  -- The share is a hundred at most, whatever the divisor.
  have shares := quotient_converts 100 some
  rw [Int.cast_ofNat] at shares
  obtain ⟨share, s, shared, shareRounds, shareWorth⟩ :=
    shares.exists_near ((shareSize.trans (by norm_num)).trans range)
  -- The attack is a whole number with few digits, so it is even exact.
  obtain ⟨attack, attacked, attackWorth⟩ := exists_floatOfInt (n := a) (by
    rw [abs_lt] at whole
    omega)
  -- The product is bounded by the bounds of its factors.
  have productSize : |a * s| ≤ 2 ^ 60 := by
    obtain ⟨-, -, size⟩ := rounded_share some most shareRounds
    calc |a * s| = |(a : ℚ)| * |s| := abs_mul _ _
      _ ≤ 2 ^ 51 * 2 ^ 9 := by gcongr
      _ = 2 ^ 60 := by norm_num
  obtain ⟨p, productRounds, worth⟩ :=
    (Double.mul_rounds attackWorth shareWorth).exists_near (productSize.trans range)
  have floored : (Number.float (attack * share)).floor = .ok ⌊p⌋ := floor_of_worth worth
  -- The product is next to the quotient, so its floor is that of the quotient, or one less.
  have close := product_close some most small shareRounds productRounds
  have floor := floor_of_near (p := p) (m := a * 100) some (by push_cast at close ⊢; exact close)
  rw [cast_divisor, Int.cast_mul, Int.cast_ofNat] at floor
  exact ⟨⌊p⌋, (damage_whole proper).mpr ⟨share, attack, _, shared, attacked, floored, rfl⟩, floor⟩

/-- The damage of a whole attack against a whole defense is the floor of what three roundings make of
the exact quotient, a number next to it. As long as a hundred times the attack is below `2 ^ 51`, and the
divisor is not beyond `2 ^ 1000`, there is a damage, and it is the floor of the quotient itself, or one
less than the quotient if that is whole. -/
theorem damage_near_exact (a : ℤ) {d : ℤ} (proper : d ≠ -100) :
    (∀ w, Builtin.damageCalc.apply [.whole a, .whole d] = .ok w →
      ∃ share attack product : ℚ, Rounding (100 / (100 + d)) share ∧ Rounding a attack ∧
        Rounding (attack * share) product ∧ w = .whole ⌊product⌋ ∧
          |product - a * 100 / (100 + d)| ≤ (|(a * 100 / (100 + d) : ℚ)| + 1) / 2 ^ 50) ∧
    (|a * 100| < 2 ^ 51 → |100 + d| ≤ 2 ^ 1000 →
      ∃ n : ℤ, Builtin.damageCalc.apply [.whole a, .whole d] = .ok (.whole n) ∧
        (n = ⌊(a * 100 / (100 + d) : ℚ)⌋ ∨ (n : ℚ) + 1 = a * 100 / (100 + d))) :=
  ⟨fun _ => damage_rounds proper, exists_damage proper⟩

/-- An attack that is let through for exactly twenty. -/
theorem damage_near_exact_whole : (285 : ℤ) ≠ -100 ∧ |(77 * 100 : ℤ)| < 2 ^ 51 ∧
    |(100 + 285 : ℤ)| ≤ 2 ^ 1000 ∧
    ∃ n : ℤ, Builtin.damageCalc.apply [.whole 77, .whole 285] = .ok (.whole n) ∧
      (n = ⌊((77 : ℤ) * 100 / (100 + (285 : ℤ)) : ℚ)⌋ ∨
        (n : ℚ) + 1 = (77 : ℤ) * 100 / (100 + (285 : ℤ))) :=
  have most : |(100 + 285 : ℤ)| ≤ 2 ^ 1000 :=
    (show |(100 + 285 : ℤ)| ≤ 2 ^ 9 by decide).trans (pow_le_pow_right₀ (by decide) (by decide))
  ⟨by decide, by decide, most, (damage_near_exact 77 (by decide)).2 (by decide) most⟩

/-- The damage that is exactly twenty comes out as nineteen. -/
theorem damage_short : ¬ ∀ a d : ℤ, d ≠ -100 → ∀ w,
    Builtin.damageCalc.apply [.whole a, .whole d] = .ok w →
      w = .whole ⌊(a * 100 / (100 + d) : ℚ)⌋ := by
  intro exact
  -- All of it is computed on concrete numbers: 7700 over 385 is twenty.
  have computed : Builtin.damageCalc.apply [.whole 77, .whole 285] = .ok (.whole 19) := rfl
  have floor := exact 77 285 (by decide) _ computed
  norm_num at floor

end Spreadsheet.Game
