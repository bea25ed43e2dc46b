import Spreadsheet.Proofs.Number.Rounding
import Spreadsheet.Proofs.Number.Writable

/-!
The double nearest to a number: it is worth what the number rounds to, or infinite beyond the doubles.
-/

namespace Spreadsheet.Double

open Float.Model UnpackedFloat

variable {x : Float} {q r : ℚ}

/-- A double is as infinite as the library reads it. -/
theorem isInf_of_full (full : x.toBits.toNat % signBit = infinityBits) : x.isInf = true := by
  -- One case for each way to read the bits; only infinity has those of infinity.
  have read := reading x
  have size : (word x).size = infinityBits := full
  show x.toModel.unpack.isInf = true
  generalize x.toModel.unpack = u at read
  cases read with
  | infinity => rfl
  | nan beyond => omega
  | zero nothing => rw [nothing] at size; exact absurd size (by decide)
  | subnormal some small => rw [size] at small; exact absurd small (by decide)
  | normal usual small some => omega

/-- A double that is worth something is not infinite. -/
theorem isInf_of_worth (worth : Worth x q) : x.isInf = false := by
  -- A worth is read from finite bits only, and infinity has others.
  obtain ⟨s, e, finite, -⟩ := worth
  have read := reading x
  show x.toModel.unpack.isInf = false
  generalize x.toModel.unpack = u at read
  cases read with
  | infinity full =>
    have size : x.toBits.toNat % signBit = infinityBits := full
    rw [exact, if_neg (by omega), if_pos size] at finite
    cases finite
  | _ => rfl

/-- A magnitude is the multiple of its last place that the bits count. -/
theorem magnitude_of_size {k n : Nat} (size : x.toBits.toNat % signBit = k * hiddenBit + n)
    (usual : k = 0 ∨ hiddenBit ≤ n) (most : n ≤ 2 * hiddenBit) :
    ((magnitude x).1 : ℚ) * 2 ^ (magnitude x).2 = n * 2 ^ (k + leastExponent) := by
  rw [magnitude, size]
  -- The multiple fills the places below the hidden bit, up to it, or carries into the exponent.
  rcases Nat.lt_or_ge n hiddenBit with small | large
  · obtain rfl : k = 0 := usual.resolve_right (by omega)
    rw [zero_mul, zero_add, Nat.div_eq_of_lt small, Nat.mod_eq_of_lt small, if_pos rfl]
    simp
  rcases Nat.lt_or_ge n (2 * hiddenBit) with below | above
  · -- In the middle the exponent is one more than the count, and the fraction lacks the hidden bit.
    have field : (k * hiddenBit + n) / hiddenBit = k + 1 := by
      simp only [hiddenBit] at *
      omega
    have fraction : (k * hiddenBit + n) % hiddenBit = n - hiddenBit := by
      simp only [hiddenBit] at *
      omega
    rw [field, fraction, if_neg k.succ_ne_zero, Nat.add_sub_cancel' large]
    congr 2
    rw [leastExponent]
    omega
  · -- At the end the fraction is full: it carries into the exponent and leaves nothing behind.
    obtain rfl : n = 2 * hiddenBit := most.antisymm above
    have field : (k * hiddenBit + 2 * hiddenBit) / hiddenBit = k + 2 := by
      simp only [hiddenBit]
      omega
    have fraction : (k * hiddenBit + 2 * hiddenBit) % hiddenBit = 0 := by
      simp only [hiddenBit]
      omega
    have exponent : ((k + 2 : Nat) : ℤ) - 1075 = k + leastExponent + 1 := by
      rw [leastExponent]
      omega
    rw [field, fraction, if_neg (Nat.succ_ne_zero _)]
    dsimp only
    rw [exponent, zpow_add_one₀ two_ne_zero]
    push_cast
    ring

/-- A double is worth the multiple of its last place that its bits count. -/
theorem worth_of_size {k n : Nat} (size : x.toBits.toNat % signBit = k * hiddenBit + n)
    (usual : k = 0 ∨ hiddenBit ≤ n) (most : n ≤ 2 * hiddenBit)
    (finite : k * hiddenBit + n < infinityBits) :
    Worth x ((if isNegative x then -(n : ℚ) else n) * 2 ^ (k + leastExponent)) := by
  -- The bits are below those of infinity, so the double is read as a finite one.
  have exactly : exact x = .finite
      (if isNegative x then -((magnitude x).1 : ℤ) else (magnitude x).1) (magnitude x).2 := by
    rw [exact]
    dsimp only
    rw [if_neg (by omega), if_neg (by omega)]
  refine ⟨_, _, exactly, ?_⟩
  -- The sign goes before the multiple.
  split
  · rw [neg_mul, ← magnitude_of_size size usual most, Int.cast_neg, Int.cast_natCast, neg_mul]
  · rw [← magnitude_of_size size usual most, Int.cast_natCast]

/-- What a double is worth has 53 digits, none of them below the least place. -/
theorem exists_short_of_worth (worth : Worth x q) :
    ∃ s e : ℤ, s.natAbs < 2 ^ 53 ∧ leastExponent ≤ e ∧ e ≤ 971 ∧ q = s * 2 ^ e := by
  -- Both bounds are those of the finite value that the bits stand for.
  obtain ⟨s, e, finite, rfl⟩ := worth
  obtain ⟨short, high⟩ := exact_bounds finite
  refine ⟨s, e, short, ?_, high, rfl⟩
  -- The exponent is the least one for subnormal doubles, and one for each step above it.
  have low : leastExponent ≤ (magnitude x).2 := by
    rw [magnitude]
    split
    · exact le_rfl
    · rename_i usual
      have field := Nat.pos_of_ne_zero usual
      rw [leastExponent]
      omega
  -- The value has the exponent of the magnitude.
  rw [exact] at finite
  dsimp only at finite
  split at finite
  · cases finite
  · split at finite
    · cases finite
    · cases finite
      exact low

/-- What a double is worth rounds to itself. -/
theorem rounding_of_worth (worth : Worth x q) : Rounding q q := by
  -- A number with so few digits is a multiple of its own last place.
  obtain ⟨s, e, short, low, -, rfl⟩ := exists_short_of_worth worth
  exact .of_short short low

/-- What a double is worth is within the range of doubles. -/
theorem abs_lt_of_worth (worth : Worth x q) : |q| < 2 ^ 1024 := by
  -- Fifty-three digits in front of the largest exponent are not enough to reach 2 ^ 1024.
  obtain ⟨s, e, short, -, high, rfl⟩ := exists_short_of_worth worth
  have short' : ((s.natAbs : ℤ) : ℚ) < 2 ^ (53 : ℤ) := by exact_mod_cast short
  have unit : (0 : ℚ) < 2 ^ e := zpow_pos two_pos _
  calc |(s : ℚ) * 2 ^ e| = ((s.natAbs : ℤ) : ℚ) * 2 ^ e := by
        rw [abs_mul, abs_of_pos unit, ← Int.cast_abs, Int.abs_eq_natAbs]
    _ < 2 ^ (53 : ℤ) * 2 ^ e := by gcongr
    _ = 2 ^ (53 + e) := (zpow_add₀ two_ne_zero _ _).symm
    _ ≤ 2 ^ (1024 : ℤ) := zpow_le_zpow_right₀ one_le_two (by omega)
    _ = 2 ^ 1024 := zpow_natCast 2 1024

/-- The bit above all others is the sign. -/
theorem sign_of_bits {b : Nat} {negative : Bool} (small : b < signBit)
    (bits : x.toBits.toNat = b + if negative then signBit else 0) :
    x.toBits.toNat % signBit = b ∧ isNegative x = negative := by
  -- The sign is added to bits that are less than it, so both can be read off again.
  rw [isNegative, bits]
  cases negative with
  | true =>
    rw [if_pos rfl, Nat.add_mod_right, Nat.mod_eq_of_lt small]
    exact ⟨rfl, decide_eq_true (Nat.le_add_left _ _)⟩
  | false =>
    rw [if_neg Bool.false_ne_true, add_zero, Nat.mod_eq_of_lt small]
    exact ⟨rfl, decide_eq_false small.not_ge⟩

/-- A number rounds to a double: it is worth what the number rounds to, or infinite beyond range. -/
def Rounds (q : ℚ) (x : Float) : Prop :=
  ∃ r, Rounding q r ∧ (|r| < 2 ^ 1024 ∧ Worth x r ∨ 2 ^ 1024 ≤ |r| ∧ x.isInf = true)

namespace Rounds

/-- A double that a number rounds to, but for infinities, is worth what the number rounds to. -/
theorem exists_worth (rounds : Rounds q x) (finite : x.isInf = false) :
    ∃ r, Rounding q r ∧ Worth x r := by
  -- A double that is not infinite is the first of the two cases.
  obtain ⟨r, rounding, ⟨-, worth⟩ | ⟨-, infinite⟩⟩ := rounds
  · exact ⟨r, rounding, worth⟩
  · rw [finite] at infinite
    cases infinite

/-- A number that rounds to one in range rounds to a double that is worth it. -/
theorem worth (rounds : Rounds q x) (rounding : Rounding q r) (small : |r| < 2 ^ 1024) :
    Worth x r := by
  -- There is only one rounding, so the two that are given agree.
  obtain ⟨s, rounding', ⟨-, worth⟩ | ⟨large, -⟩⟩ := rounds
  · rw [rounding.unique rounding']
    exact worth
  · rw [rounding.unique rounding'] at small
    exact absurd small (not_lt.mpr large)

/-- A number that is well in range rounds to a double that is worth something. -/
theorem exists_near (rounds : Rounds q x) (small : |q| ≤ 2 ^ 1023) :
    ∃ r, Rounding q r ∧ Worth x r := by
  -- A number well in range does not round to anything beyond it.
  obtain ⟨r, rounding, ⟨-, worth⟩ | ⟨large, -⟩⟩ := rounds
  · exact ⟨r, rounding, worth⟩
  · exact absurd (rounding.abs_lt small) (not_lt.mpr large)

/-- Zero rounds to a double without any bits beside the sign. -/
theorem of_no_bits (nothing : x.toBits.toNat % signBit = 0) : Rounds 0 x := by
  -- The count of nothing is zero times the least place.
  have worth := worth_of_size (k := 0) (n := 0) (by rw [nothing, zero_mul]) (.inl rfl) (Nat.zero_le _)
    (by decide)
  refine ⟨0, .zero, .inl ⟨by norm_num, ?_⟩⟩
  simpa using worth

/-- Multiples whose bits reach infinity are beyond the range of doubles. -/
theorem le_of_full {k n : Nat} (usual : k = 0 ∨ hiddenBit ≤ n) (most : n ≤ 2 * hiddenBit)
    (full : infinityBits ≤ k * hiddenBit + n) : (2 : ℚ) ^ 1024 ≤ n * 2 ^ (k + leastExponent) := by
  -- The bits reach infinity in two ways: by the last carry, or with an exponent beyond the last.
  have last : k = 2045 ∧ n = 2 * hiddenBit ∨ 2046 ≤ k ∧ hiddenBit ≤ n := by
    simp only [hiddenBit, infinityBits] at *
    omega
  rcases last with ⟨rfl, rfl⟩ | ⟨large, normal⟩
  · refine le_of_eq ?_
    rw [Nat.cast_mul, hiddenBit_eq, Nat.cast_ofNat, mul_assoc, ← zpow_add₀ two_ne_zero,
      ← zpow_one_add₀ two_ne_zero, ← zpow_natCast]
    rfl
  · have whole : ((hiddenBit : Nat) : ℚ) ≤ n := by exact_mod_cast normal
    have unit : (2 : ℚ) ^ (972 : ℤ) ≤ 2 ^ (k + leastExponent) :=
      zpow_le_zpow_right₀ one_le_two (by rw [leastExponent]; omega)
    calc (2 : ℚ) ^ 1024 = (hiddenBit : Nat) * 2 ^ (972 : ℤ) := by
          rw [hiddenBit_eq, ← zpow_add₀ two_ne_zero, ← zpow_natCast]
          rfl
      _ ≤ n * 2 ^ (k + leastExponent) := by gcongr

/-- A double is a rounding of a number if its bits count the nearest multiple of its last place. -/
theorem of_bits {n : Nat} {negative : Bool} (pos : 0 < q)
    (near : NearestWhole (q / 2 ^ place q) n)
    (bits : x.toBits.toNat =
      min ((place q - leastExponent).toNat * hiddenBit + n) infinityBits +
        if negative then signBit else 0) :
    Rounds (if negative then -q else q) x := by
  -- The nearest multiple fills its places, and at most carries over the hidden bit.
  obtain ⟨-, most, usual⟩ := significand_bounds pos near
  have low : leastExponent ≤ place q := le_max_right _ _
  have steps : ((place q - leastExponent).toNat : ℤ) + leastExponent = place q := by omega
  have usual' : (place q - leastExponent).toNat = 0 ∨ hiddenBit ≤ n := by omega
  have most' : n ≤ 2 * hiddenBit := by omega
  rw [← steps] at near
  -- In terms of what the bits count, the multiple is the rounding.
  have rounding : Rounding q (n * 2 ^ ((place q - leastExponent).toNat + leastExponent)) :=
    ⟨n, by rw [steps] at near; exact near, by rw [steps, Int.cast_natCast]⟩
  -- From here on only the number of steps above the least place matters.
  generalize (place q - leastExponent).toNat = k at *
  have small : min (k * hiddenBit + n) infinityBits < signBit :=
    (Nat.min_le_right _ _).trans_lt (by decide)
  obtain ⟨size, sign⟩ := sign_of_bits small bits
  -- The sign goes before the number and before its rounding alike.
  have rounding' : Rounding (if negative then -q else q)
      ((if negative then -(n : ℚ) else n) * 2 ^ (k + leastExponent)) := by
    split
    · rw [neg_mul]
      exact rounding.neg
    · exact rounding
  refine ⟨_, rounding', ?_⟩
  rcases Nat.lt_or_ge (k * hiddenBit + n) infinityBits with finite | full
  · -- The bits are those of a finite double.
    rw [Nat.min_eq_left finite.le] at size
    have worth := worth_of_size size usual' most' finite
    rw [sign] at worth
    exact .inl ⟨abs_lt_of_worth worth, worth⟩
  · -- The bits are those of infinity, and the multiple is beyond the range.
    rw [Nat.min_eq_right full] at size
    have large := le_of_full usual' most' full
    refine .inr ⟨large.trans ?_, isInf_of_full size⟩
    split
    · rw [neg_mul, abs_neg]
      exact le_abs_self _
    · exact le_abs_self _

end Rounds

/-- A quotient rounds to the double nearest to it. -/
theorem nearest_rounds (negative : Bool) (num : Nat) {den : Nat} (pos : 0 < den) :
    Rounds (if negative then -((num : ℚ) / den) else num / den) (nearest negative num den) := by
  have bits := toBits_nearest negative num den
  rcases Nat.eq_zero_or_pos num with rfl | some
  · -- Zero has no bits but a sign.
    have nothing : (nearest negative 0 den).toBits.toNat % signBit = 0 := by
      rw [bits, nearestBits, if_pos rfl]
      cases negative with
      | true => rw [if_pos rfl, zero_add, Nat.mod_self]
      | false => rfl
    simpa using Rounds.of_no_bits nothing
  · -- The bits of any other quotient count the nearest multiple of its last place.
    obtain ⟨n, near, counted⟩ := nearestBits_eq some pos
    have positive : (0 : ℚ) < num / den := by
      have num' : (0 : ℚ) < num := by exact_mod_cast some
      have den' : (0 : ℚ) < den := by exact_mod_cast pos
      positivity
    rw [counted] at bits
    exact .of_bits positive near bits

end Spreadsheet.Double
