import Mathlib.Tactic.IntervalCases
import Spreadsheet.Function.Builtin
import Spreadsheet.Proofs.Function.Argument
import Spreadsheet.Proofs.Number.Arithmetic

/-!
The rate of a draw as pity grows: the base rate, then a ramp that is cut off at 99, then certainty. Every
step of the ramp is rounded, and since rounding keeps the order, the rate never falls, unless the base rate
is above the cut already.
-/

namespace Spreadsheet.Game

open Double (Rounding rangeEnd)
open Number

variable {t p q start : ℤ} {β x y u v : ℚ}

section Ramp

/--
The rate on the ramp after some steps of a span, before it is cut off: the share of the span, nine
times this, one more, and the product with the base rate, each of them rounded.
-/
def Ramp (β : ℚ) (passed span : ℤ) (v : ℚ) : Prop :=
  ∃ share extra factor : ℚ, Rounding (passed / span) share ∧ Rounding (share * 9) extra ∧
    Rounding (1 + extra) factor ∧ Rounding (β * factor) v

/-- The ramp does not fall. -/
theorem Ramp.mono {passed passed' span : ℤ} (nonneg : 0 ≤ β) (pos : 0 < span) (le : passed ≤ passed')
    (ramp : Ramp β passed span u) (ramp' : Ramp β passed' span v) : u ≤ v := by
  obtain ⟨share, extra, factor, shared, raised, scaled, rounded⟩ := ramp
  obtain ⟨share', extra', factor', shared', raised', scaled', rounded'⟩ := ramp'
  have pos' : (0 : ℚ) < span := by exact_mod_cast pos
  have le' : (passed : ℚ) ≤ passed' := by exact_mod_cast le
  -- Each step keeps the order, and so does its rounding.
  have shares : share ≤ share' := shared.mono (by gcongr) shared'
  have extras : extra ≤ extra' := raised.mono (by gcongr) raised'
  have factors : factor ≤ factor' := scaled.mono (by gcongr) scaled'
  exact rounded.mono (by gcongr) rounded'

/-- The ramp begins at the base rate. -/
theorem Ramp.base_le {passed span : ℤ} (nonneg : 0 ≤ β) (self : Rounding β β) (pos : 0 < span)
    (begun : 0 ≤ passed) (ramp : Ramp β passed span v) : β ≤ v := by
  -- Every step starts from no less than zero, so that the factor is one at least.
  obtain ⟨share, extra, factor, shared, raised, scaled, rounded⟩ := ramp
  have pos' : (0 : ℚ) < span := by exact_mod_cast pos
  have begun' : (0 : ℚ) ≤ passed := by exact_mod_cast begun
  have shares : 0 ≤ share := shared.nonneg (by positivity)
  have extras : 0 ≤ extra := raised.nonneg (by positivity)
  have one : Rounding (1 : ℤ) (1 : ℤ) := .of_whole (by decide)
  rw [Int.cast_one] at one
  have factors : 1 ≤ factor := one.mono (le_add_of_nonneg_right extras) scaled
  exact self.mono (le_mul_of_one_le_right nonneg factors) rounded

/-- What lies between zero and a small whole number is well in range. -/
theorem range_of_between {n : ℤ} (few : n ≤ 1000) (low : 0 ≤ x) (high : x ≤ n) : |x| ≤ 2 ^ 1023 := by
  -- Numbers of ten bits are far from the largest double.
  have few' : (n : ℚ) ≤ 2 ^ 10 := by exact_mod_cast few.trans (by decide)
  rw [abs_of_nonneg low]
  exact (high.trans few').trans (pow_le_pow_right₀ one_le_two (by decide))

/-- What lies between zero and a small whole number is rounded to something between them. -/
theorem between_of_rounding {n : ℤ} (few : n ≤ 1000) (low : 0 ≤ x) (high : x ≤ n)
    (rounding : Rounding x y) : 0 ≤ y ∧ y ≤ n := by
  -- Both bounds are doubles, and rounding keeps the order.
  have least : 0 ≤ n := by exact_mod_cast low.trans high
  exact ⟨rounding.nonneg low, rounding.mono high (.of_whole (by omega))⟩

/-- What lies between zero and a small whole number becomes a double between them. -/
theorem exists_between {z : Float} {n : ℤ} (few : n ≤ 1000) (low : 0 ≤ x) (high : x ≤ n)
    (rounds : Double.Rounds x z) : ∃ r, Rounding x r ∧ Double.Worth z r ∧ 0 ≤ r ∧ r ≤ n := by
  -- A number in range is rounded to a double, and then the bounds of the rounding hold.
  obtain ⟨r, rounding, worth⟩ := rounds.exists_near (range_of_between few low high)
  exact ⟨r, rounding, worth, between_of_rounding few low high rounding⟩

/-- Before the threshold the ramp is worth what its steps make of the base rate, cut off at 99. -/
theorem exists_softRate {base : Number} {w : Float} (double : base.toFloat = .ok w)
    (worth : Double.Worth w β) (nonneg : 0 ≤ β) (most : β ≤ 100) (begun : start ≤ p) (before : p < t) :
    ∃ a v, softRate base (.whole p) (.whole t) (.whole start) = .ok (.number a) ∧
      Ramp β (p - start) (t - start) v ∧ a.Worth (min v 99) := by
  -- The share of the span lies between zero and one.
  have pos : (0 : ℚ) < (t - start : ℤ) := by exact_mod_cast sub_pos.mpr (begun.trans_lt before)
  have low : (0 : ℚ) ≤ (p - start : ℤ) / (t - start : ℤ) :=
    div_nonneg (by exact_mod_cast sub_nonneg.mpr begun) pos.le
  have high : ((p - start : ℤ) : ℚ) / (t - start : ℤ) ≤ (1 : ℤ) := by
    rw [Int.cast_one, div_le_one pos]
    exact_mod_cast sub_le_sub_right before.le start
  -- The constants of the ramp are exact.
  obtain ⟨one, oned, oneWorth⟩ := exists_floatOfInt (n := 1) (by decide)
  obtain ⟨nine, nined, nineWorth⟩ := exists_floatOfInt (n := 9) (by decide)
  have some : t - start ≠ 0 := by omega
  -- From step to step the numbers stay small, so that none is out of range.
  obtain ⟨z, share, divided, shared, shareWorth⟩ :=
    (quotient_converts (p - start) some).exists_near (range_of_between (by decide) low high)
  obtain ⟨shareLow, shareHigh⟩ := between_of_rounding (by decide) low high shared
  obtain ⟨extra, raised, extraWorth, extraLow, extraHigh⟩ :=
    exists_between (n := 9) (by decide) (by positivity) (by push_cast at *; linarith only [shareHigh])
      (Double.mul_rounds shareWorth nineWorth)
  obtain ⟨factor, scaled, factorWorth, factorLow, factorHigh⟩ :=
    exists_between (n := 10) (by decide) (by positivity) (by push_cast at *; linarith only [extraHigh])
      (Double.add_rounds oneWorth extraWorth)
  have product : β * factor ≤ (1000 : ℤ) := by
    calc β * factor ≤ 100 * 10 := by gcongr; exact_mod_cast factorHigh
      _ = (1000 : ℤ) := by norm_num
  obtain ⟨v, rounded, rateWorth, -, -⟩ :=
    exists_between (by decide) (by positivity) product (Double.mul_rounds worth factorWorth)
  rw [Int.cast_one] at scaled
  rw [Int.cast_ofNat] at raised
  have computed : softRate base (.whole p) (.whole t) (.whole start) =
      .ok (.number ((Number.float (w * (one + z * nine))).least (.whole 99)).normalize) := by
    simp only [softRate, sub_whole, div_whole, float_mul, add_float, mul_double, divided, oned, nined,
      double, bind, Except.bind, pure, Except.pure]
  -- The rate is cut off at 99 by a comparison, and normalizing keeps its worth.
  refine ⟨_, v, computed, ⟨share, extra, factor, shared, raised, scaled, rounded⟩, normalize_worth ?_⟩
  have rate : (Number.float (w * (one + z * nine))).Worth v := rateWorth
  rw [least, below_of_worth (worth_whole 99) rate, Int.cast_ofNat]
  rcases lt_or_ge 99 v with above | below
  · rw [if_pos (decide_eq_true above), min_eq_right above.le]
    exact_mod_cast worth_whole 99
  · rw [if_neg (by simpa using below), min_eq_left below]
    exact rate

end Ramp

section Start

/--
The pity from which the rate is on the ramp: three quarters of the threshold, cut off to a whole
number. The threshold is rounded to a double, and so are its three quarters.
-/
def Starts (t start : ℤ) : Prop :=
  ∃ r s : ℚ, Rounding t r ∧ Rounding (r * (3 / 4)) s ∧ start = ⌊s⌋

/-- Three quarters are worth three quarters. -/
theorem worth_threeQuarters : Double.Worth 0.75 (3 / 4) := ⟨3 * 2 ^ 51, -53, rfl, by norm_num⟩

/-- A threshold that is not too large has exact quarters. -/
theorem Starts.eq (starts : Starts t start) (nonneg : 0 ≤ t) (small : t < 2 ^ 51) :
    start = 3 * t / 4 := by
  -- Neither rounding does anything: the threshold and its three quarters have few digits.
  obtain ⟨r, s, first, second, rfl⟩ := starts
  obtain rfl : r = t := first.unique (.of_whole (by omega))
  have quarters : ((3 * t : ℤ) : ℚ) * 2 ^ (-2 : ℤ) = t * (3 / 4) := by
    push_cast
    norm_num
    ring
  have exact := Rounding.of_short (s := 3 * t) (e := -2) (by omega) (by decide)
  rw [quarters] at exact
  obtain rfl := second.unique exact
  rw [← quarters, ← Double.Exact.floor_eq, Double.Exact.floor, if_neg (by decide)]
  exact Int.fdiv_eq_ediv_of_nonneg _ (by decide)

/-- The ramp starts before the threshold. -/
theorem Starts.lt (starts : Starts t start) (some : 1 ≤ t) : start < t := by
  -- Both roundings are relative to numbers of one or more.
  obtain ⟨r, s, first, second, rfl⟩ := starts
  have some' : (1 : ℚ) ≤ t := by exact_mod_cast some
  have one : Rounding (1 : ℤ) (1 : ℤ) := .of_whole (by decide)
  rw [Int.cast_one] at one
  have least : 1 ≤ r := one.mono some' first
  -- The product is not subnormal, so its rounding moves it by a share of itself.
  have size : |r * (3 / 4)| = r * (3 / 4) := abs_of_nonneg (by linarith only [least])
  have half : (2 : ℚ) ^ (-1022 : ℤ) ≤ 2 ^ (-1 : ℤ) := zpow_le_zpow_right₀ one_le_two (by decide)
  rw [zpow_neg_one] at half
  -- Two roundings do not make up for the missing quarter.
  have near := first.abs_sub_le_of_normal (Rounding.normal_of_whole t)
  have near' := second.abs_sub_le_of_normal (.inr (by rw [size]; linarith only [half, least]))
  rw [abs_of_nonneg (zero_le_one.trans some')] at near
  rw [size] at near'
  rw [Int.floor_lt]
  linarith only [(abs_le.mp near).2, (abs_le.mp near').2, some']

/-- A threshold in range has a start of the ramp. -/
theorem exists_start (nonneg : 0 ≤ t) (inRange : t < rangeEnd) : ∃ quarters start,
    (Number.whole t).mul (.float 0.75) = .ok quarters ∧ quarters.floor = .ok start ∧ Starts t start := by
  -- The threshold is in range, so it becomes a double, and the product is less than it.
  rcases floatOfInt_of_nonneg nonneg with ⟨-, x, r, done, first, worth⟩ | ⟨beyond, -⟩
  · have nonneg' : 0 ≤ r := first.nonneg (by exact_mod_cast nonneg)
    obtain ⟨s, second, ⟨-, worth'⟩ | ⟨large, -⟩⟩ := Double.mul_rounds worth worth_threeQuarters
    · have computed : (Number.whole t).mul (.float 0.75) = .ok (.float (x * 0.75)) := by
        rw [mul_float, done]
        rfl
      exact ⟨_, _, computed, floor_of_worth worth', r, s, first, second, rfl⟩
    · -- Less than the threshold is in range, too.
      have less : s ≤ r := second.mono (by linarith only [nonneg']) (Double.rounding_of_worth worth)
      have inside := Double.abs_lt_of_worth worth
      rw [abs_of_nonneg nonneg'] at inside
      rw [abs_of_nonneg (second.nonneg (by positivity))] at large
      exact absurd (large.trans less) (not_le.mpr inside)
  · exact absurd inRange (not_lt.mpr beyond)

/-- A threshold out of range cannot be multiplied. -/
theorem mul_of_beyond (nonneg : 0 ≤ t) (beyond : rangeEnd ≤ t) :
    (Number.whole t).mul (.float 0.75) = .error .wholeTooLarge := by
  -- The range is decided by the threshold alone, and the multiplication fails with the conversion.
  rcases floatOfInt_of_nonneg nonneg with ⟨inRange, -⟩ | ⟨-, failed⟩
  · exact absurd inRange (not_lt.mpr beyond)
  · rw [mul_float, failed]
    rfl

end Start

section Draw

variable {tier : ℤ} {base : Value}

/-- A base rate for draws: none, or whole percents. -/
inductive BaseRate : Value → Prop where
  /-- Left out. -/
  | omitted : BaseRate .blank
  /-- Up to a hundred percent. -/
  | percent {b : ℤ} (nonneg : 0 ≤ b) (most : b ≤ 100) : BaseRate (.whole b)

/-- The base rate that counts: the given one, or that of the tier. -/
def baseOf (tier : ℤ) : Value → Number
  -- The first tier has the first rate.
  | .number n => n
  | _ => tierRates.getD (tier - 1).toNat (.whole 0)

/-- The rate of a draw by whole numbers as a function gives it. -/
abbrev rate (tier pity : ℤ) (base : Value) (threshold : ℤ) : Except Failure Value :=
  Builtin.gachaRate.apply [.whole tier, .whole pity, base, .whole threshold]

/-- A whole number that is missing or zero is the same number. -/
theorem orZero_whole (n : ℤ) : orZero (some (.whole n)) = .whole n := by
  -- A zero is replaced by the zero that it is.
  rw [orZero, isZero, same_whole]
  split
  · rename_i zero
    rw [of_decide_eq_true zero]
  · rfl

/--
The rate of a draw by whole numbers: certain from the threshold on, on the ramp from its start on,
and the base rate before.
-/
theorem drawRate_whole (low : 1 ≤ tier) (high : tier ≤ 6) (given : BaseRate base) :
    rate tier p base t =
      if t ≤ p then .ok (.whole 100) else do
        let quarters ← ((Number.whole t).mul (.float 0.75) : Except Fault Number)
        let start ← (quarters.floor : Except Fault Int)
        if start ≤ p then
          (softRate (baseOf tier base) (.whole p) (.whole t) (.whole start) : Except Fault Value)
        else return .number (baseOf tier base) := by
  -- Reading the arguments cannot fail, and the tier passes its test.
  have reads (n : ℤ) : Argument.number? (.whole n) = .ok (some (.whole n)) := rfl
  have inside : ((Number.whole tier).below (.whole 1) || (Number.whole 6).below (.whole tier)) = false := by
    rw [below_whole, below_whole, decide_eq_false low.not_gt, decide_eq_false high.not_gt, Bool.false_or]
  have tiered : tierRate (.whole tier) = .ok (baseOf tier .blank) := by
    rw [tierRate, truncate_whole]
    rfl
  -- A base rate that is left out is looked up, any other one is taken as it is.
  cases given with
  | omitted =>
    have none : Argument.number? .blank = .ok none := rfl
    simp only [Builtin.apply, drawRate, reads, none, orZero_whole, Option.getD_some, inside, tiered,
      atMost_whole, decide_eq_true_eq, bind, Except.bind, if_neg Bool.false_ne_true]
    rfl
  | percent nonneg most =>
    simp only [Builtin.apply, drawRate, reads, orZero_whole, Option.getD_some, inside, atMost_whole,
      decide_eq_true_eq, bind, Except.bind, if_neg Bool.false_ne_true]
    rfl

/-- A base rate is worth the same as a number and as a double, at most a hundred. -/
structure Based (n : Number) (β : ℚ) : Prop where
  worth : n.Worth β
  double : ∃ w, n.toFloat = .ok w ∧ Double.Worth w β
  nonneg : 0 ≤ β
  most : β ≤ 100

/-- Whole percents are base rates. -/
theorem based_whole {n : ℤ} (nonneg : 0 ≤ n) (most : n ≤ 100) : Based (.whole n) n where
  worth := worth_whole n
  double := exists_floatOfInt (by omega)
  nonneg := by exact_mod_cast nonneg
  most := by exact_mod_cast most

/-- The double next to six tenths is worth this. -/
theorem worth_sixTenths : Double.Worth 0.6 (5404319552844595 / 2 ^ 53) :=
  ⟨5404319552844595, -53, rfl, by norm_num⟩

/-- The tiers have base rates below the cut of the ramp. -/
theorem exists_based_tier (low : 1 ≤ tier) (high : tier ≤ 6) :
    ∃ β, Based (baseOf tier .blank) β ∧ β ≤ 99 := by
  -- One case for each tier; only the last one has a rate that is no whole number.
  interval_cases tier
  · exact ⟨_, based_whole (n := 40) (by decide) (by decide), by norm_num⟩
  · exact ⟨_, based_whole (n := 25) (by decide) (by decide), by norm_num⟩
  · exact ⟨_, based_whole (n := 15) (by decide) (by decide), by norm_num⟩
  · exact ⟨_, based_whole (n := 10) (by decide) (by decide), by norm_num⟩
  · exact ⟨_, based_whole (n := 5) (by decide) (by decide), by norm_num⟩
  · exact ⟨_, ⟨worth_sixTenths, ⟨_, rfl, worth_sixTenths⟩, by norm_num, by norm_num⟩, by norm_num⟩

/-- Every base rate but a hundred percent is below the cut of the ramp. -/
theorem exists_based (low : 1 ≤ tier) (high : tier ≤ 6) (given : BaseRate base) :
    ∃ β, Based (baseOf tier base) β ∧ (β ≤ 99 ∨ base = .whole 100 ∧ β = 100) := by
  -- A whole percent is a hundred, or it is 99 at most.
  cases given with
  | omitted =>
    obtain ⟨β, based, small⟩ := exists_based_tier low high
    exact ⟨β, based, .inl small⟩
  | @percent b nonneg most =>
    refine ⟨b, based_whole nonneg most, ?_⟩
    rcases most.eq_or_lt with rfl | less
    · exact .inr ⟨rfl, by norm_num⟩
    · left
      exact_mod_cast Int.le_sub_one_of_lt less

/--
What the rate of a draw is worth: the base rate before the ramp, what the ramp gives up to 99, and a
hundred from the threshold on.
-/
inductive Draws (β : ℚ) (start t p : ℤ) : ℚ → Prop where
  /-- Too little pity for the ramp. -/
  | base (before : p < start) : Draws β start t p β
  /-- On the ramp. -/
  | ramp {v : ℚ} (begun : start ≤ p) (before : p < t) (ramp : Ramp β (p - start) (t - start) v) :
    Draws β start t p (min v 99)
  /-- The threshold is reached. -/
  | certain (reached : t ≤ p) : Draws β start t p 100

/-- Rates lie between zero and a hundred. -/
theorem Draws.between {n : Number} (based : Based n β) (less : start < t) (draws : Draws β start t p x) :
    0 ≤ x ∧ x ≤ 100 := by
  -- Before the threshold, and on the ramp, the rate is a number that does not exceed its bounds.
  cases draws with
  | base => exact ⟨based.nonneg, based.most⟩
  | ramp begun before ramp =>
    obtain ⟨w, -, worth⟩ := based.double
    have above := ramp.base_le based.nonneg (Double.rounding_of_worth worth) (sub_pos.mpr less)
      (sub_nonneg.mpr begun)
    exact ⟨le_min (based.nonneg.trans above) (by norm_num), (min_le_right _ _).trans (by norm_num)⟩
  | certain => norm_num

/-- More pity does not lower the rate, but where the ramp starts it cuts a base rate above 99. -/
theorem Draws.le_or {n : Number} (based : Based n β) (less : start < t) (le : p ≤ q)
    (draws : Draws β start t p x) (draws' : Draws β start t q y) :
    x ≤ y ∨ 99 < β ∧ x = β ∧ y = 99 ∧ p < start ∧ start ≤ q ∧ q < t := by
  obtain ⟨w, -, worth⟩ := based.double
  have pos : 0 < t - start := sub_pos.mpr less
  -- The cases are the regimes of both rates, and some pairs of them are in the wrong order.
  cases draws' with
  -- Before the ramp the rate is the base rate on both sides.
  | base before' =>
    cases draws with
    | base => exact .inl le_rfl
    | ramp begun => omega
    | certain => omega
  -- On the ramp the cut decides, since the ramp does not fall below the base rate.
  | ramp begun' before' ramp' =>
    have above := ramp'.base_le based.nonneg (Double.rounding_of_worth worth) pos
      (sub_nonneg.mpr begun')
    cases draws with
    | base before =>
      rcases le_or_gt β 99 with below | cut
      · exact .inl (le_min above below)
      · exact .inr ⟨cut, rfl, min_eq_right (cut.le.trans above), before, begun', before'⟩
    | ramp begun before ramp =>
      have climbs := ramp.mono based.nonneg pos (sub_le_sub_right le start) ramp'
      exact .inl (min_le_min_right 99 climbs)
    | certain => omega
  | certain => exact .inl (draws.between based less).2

/-- The rate of a draw is as told by the start of the ramp. -/
theorem exists_drawn (low : 1 ≤ tier) (high : tier ≤ 6) (some : 1 ≤ t) (inRange : t < rangeEnd)
    (given : BaseRate base) (based : Based (baseOf tier base) β) : ∃ start, Starts t start ∧
      ∀ p, ∃ a x, rate tier p base t = .ok (.number a) ∧ a.Worth x ∧ Draws β start t p x := by
  -- The start of the ramp can be computed, as the threshold is in range.
  obtain ⟨quarters, start, multiplied, floored, starts⟩ := exists_start (by omega) inRange
  refine ⟨start, starts, fun p => ?_⟩
  have lifted {α : Type} (a : α) : (liftM (Except.ok a : Except Fault α) : Except Failure α) = .ok a :=
    rfl
  have regimes : rate tier p base t = if t ≤ p then .ok (.whole 100) else
      if start ≤ p then liftM (softRate (baseOf tier base) (.whole p) (.whole t) (.whole start))
      else .ok (.number (baseOf tier base)) := by
    simp only [drawRate_whole low high given, multiplied, floored, lifted, bind, Except.bind, pure,
      Except.pure]
  -- One case for each regime: certain, on the ramp, and before it.
  rcases le_or_gt t p with reached | before
  · rw [regimes, if_pos reached]
    exact ⟨_, 100, rfl, by exact_mod_cast worth_whole 100, .certain reached⟩
  rcases le_or_gt start p with begun | early
  · obtain ⟨w, double, worth⟩ := based.double
    obtain ⟨a, v, soft, ramp, worth'⟩ :=
      exists_softRate double worth based.nonneg based.most begun before
    rw [regimes, if_neg (not_le.mpr before), if_pos begun, soft]
    exact ⟨a, _, rfl, worth', .ramp begun before ramp⟩
  · rw [regimes, if_neg (not_le.mpr before), if_neg (not_le.mpr early)]
    exact ⟨_, β, rfl, based.worth, .base early⟩

/-- Before a threshold that is too large for a double there is no rate. -/
theorem rate_of_beyond (low : 1 ≤ tier) (high : tier ≤ 6) (some : 1 ≤ t) (beyond : rangeEnd ≤ t)
    (given : BaseRate base) (before : p < t) : rate tier p base t = .error (.fault .wholeTooLarge) := by
  -- The start of the ramp is computed before anything is compared with it.
  rw [drawRate_whole low high given, if_neg (not_le.mpr before), mul_of_beyond (by omega) beyond]
  rfl

/-- A result is a number worth a rate from zero to a hundred percent. -/
def IsRate (result : Except Failure Value) (x : ℚ) : Prop :=
  ∃ a : Number, result = .ok (.number a) ∧ a.Worth x ∧ 0 ≤ x ∧ x ≤ 100

/-- From the threshold on the rate is a hundred. -/
theorem rate_of_reached (low : 1 ≤ tier) (high : tier ≤ 6) (given : BaseRate base) (reached : t ≤ p) :
    IsRate (rate tier p base t) 100 := by
  rw [drawRate_whole low high given, if_pos reached]
  exact ⟨_, rfl, by exact_mod_cast worth_whole 100, by norm_num, le_rfl⟩

/-- A draw fails only before a threshold that is too large for a double. -/
theorem beyond_of_error (low : 1 ≤ tier) (high : tier ≤ 6) (some : 1 ≤ t) (given : BaseRate base)
    {e : Failure} (failed : rate tier p base t = .error e) :
    p < t ∧ rangeEnd ≤ t ∧ e = .fault .wholeTooLarge := by
  -- From the threshold on, and for any threshold in range, there is a rate.
  rcases le_or_gt t p with reached | before
  · obtain ⟨a, done, -⟩ := rate_of_reached low high given reached
    cases failed.symm.trans done
  rcases lt_or_ge t rangeEnd with inRange | beyond
  · obtain ⟨β, based, -⟩ := exists_based low high given
    obtain ⟨start, -, drawn⟩ := exists_drawn low high some inRange given based
    obtain ⟨a, x, done, -⟩ := drawn p
    cases failed.symm.trans done
  · rw [rate_of_beyond low high some beyond given before] at failed
    exact ⟨before, beyond, (Except.error.inj failed).symm⟩

/--
The rates of two draws, the second with no less pity: numbers between zero and a hundred percent, in
this order, unless the base rate is a hundred percent and the pity of the second draw leads to the
ramp, which is cut off at 99. The ramp starts at three quarters of the threshold. A draw fails only
before a threshold that is too large for a double, and never for a division by zero.
-/
theorem rate_climbs (low : 1 ≤ tier) (high : tier ≤ 6) (some : 1 ≤ t) (given : BaseRate base)
    (le : p ≤ q) :
    (t ≤ p ∨ t < rangeEnd → ∃ x y, IsRate (rate tier p base t) x ∧ IsRate (rate tier q base t) y ∧
      (x ≤ y ∨ base = .whole 100 ∧ x = 100 ∧ y = 99 ∧ ∃ start, Starts t start ∧
        (t < 2 ^ 51 → start = 3 * t / 4) ∧ p < start ∧ start ≤ q ∧ q < t)) ∧
    ∀ e, rate tier p base t = .error e → p < t ∧ rangeEnd ≤ t ∧ e = .fault .wholeTooLarge := by
  refine ⟨?_, fun _ => beyond_of_error low high some given⟩
  -- From the threshold on both rates are a hundred.
  rintro (reached | inRange)
  · exact ⟨100, 100, rate_of_reached low high given reached,
      rate_of_reached low high given (reached.trans le), .inl le_rfl⟩
  obtain ⟨β, based, small⟩ := exists_based low high given
  obtain ⟨start, starts, drawn⟩ := exists_drawn low high some inRange given based
  have less := starts.lt some
  obtain ⟨a, x, done, worth, draws⟩ := drawn p
  obtain ⟨b, y, done', worth', draws'⟩ := drawn q
  refine ⟨x, y, ⟨a, done, worth, draws.between based less⟩,
    ⟨b, done', worth', draws'.between based less⟩, ?_⟩
  -- A rate falls only where the base rate is above the cut, which is a hundred percent.
  rcases draws.le_or based less le draws' with ordered | ⟨cut, rfl, ninetyNine, early, begun, before⟩
  · exact .inl ordered
  · rcases small with below | ⟨hundred, full⟩
    · exact absurd cut (not_lt.mpr below)
    · exact .inr ⟨hundred, full, ninetyNine, start, starts, starts.eq (by omega), early, begun, before⟩

/--
The rarest tier without a base rate of its own: fourteen more draws from the end of the base rate on
do not lower the rate.
-/
theorem rate_climbs_rarest : (1 : ℤ) ≤ 6 ∧ (6 : ℤ) ≤ 6 ∧ (1 : ℤ) ≤ 90 ∧ BaseRate .blank ∧
    (66 : ℤ) ≤ 80 ∧ (90 : ℤ) < rangeEnd ∧
    ∃ x y, IsRate (rate 6 66 .blank 90) x ∧ IsRate (rate 6 80 .blank 90) y ∧ x ≤ y := by
  have inRange : (90 : ℤ) < rangeEnd := by decide +kernel
  -- The law leaves a fall only for a base rate of a hundred percent.
  have climbs := @rate_climbs 90 66 80 6 .blank (by decide) (by decide) (by decide) .omitted (by decide)
  obtain ⟨x, y, first, second, ordered | ⟨hundred, -⟩⟩ := climbs.1 (.inr inRange)
  · exact ⟨by decide, by decide, by decide, .omitted, by decide, inRange, x, y, first, second, ordered⟩
  · cases hundred

/-- Not every threshold has a rate, and a base rate of a hundred percent falls when the ramp starts. -/
theorem rate_falls :
    (¬ ∀ tier t p : ℤ, ∀ base, 1 ≤ tier → tier ≤ 6 → 1 ≤ t → BaseRate base → 0 ≤ p →
      ∃ x, IsRate (rate tier p base t) x) ∧
    ¬ ∀ tier t p q : ℤ, ∀ base, 1 ≤ tier → tier ≤ 6 → 1 ≤ t → BaseRate base → 0 ≤ p → p ≤ q →
      ∀ x y, IsRate (rate tier p base t) x → IsRate (rate tier q base t) y → x ≤ y := by
  have percent {b : ℤ} (nonneg : 0 ≤ b) (most : b ≤ 100) : BaseRate (.whole b) := .percent nonneg most
  -- The first part fails for a threshold beyond the doubles, the second one where the ramp starts.
  constructor
  · intro all
    obtain ⟨x, a, done, -⟩ := all 1 rangeEnd 0 (.whole 10) (by decide) (by decide) (by decide +kernel)
      (percent (by decide) (by decide)) le_rfl
    rw [rate_of_beyond (by decide) (by decide) (by decide +kernel) le_rfl
      (percent (by decide) (by decide)) (by decide +kernel)] at done
    cases done
  · intro ordered
    have base : rate 1 0 (.whole 100) 4 = .ok (.whole 100) := rfl
    have ramp : rate 1 3 (.whole 100) 4 = .ok (.whole 99) := rfl
    have first : IsRate (rate 1 0 (.whole 100) 4) (100 : ℤ) :=
      ⟨_, base, worth_whole 100, by norm_num, by norm_num⟩
    have second : IsRate (rate 1 3 (.whole 100) 4) (99 : ℤ) :=
      ⟨_, ramp, worth_whole 99, by norm_num, by norm_num⟩
    have le := ordered 1 4 0 3 (.whole 100) (by decide) (by decide) (by decide)
      (percent (by decide) (by decide)) le_rfl (by decide) _ _ first second
    norm_num at le

end Draw

end Spreadsheet.Game
