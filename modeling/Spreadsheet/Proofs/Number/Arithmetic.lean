import Spreadsheet.Proofs.Number.Nearest

/-!
Products and sums of doubles are roundings of the exact ones, and so are the doubles that whole numbers
and their quotients are turned into.
-/

namespace Spreadsheet.Double

open Float.Model UnpackedFloat

/-- A significand shifted to the right keeps its quotient, and its remainder in two bits. -/
theorem shifted (m n : Nat) :
    ExtendedMantissa.ofMantissaAndAccuracy m .exact >>> n =
      ⟨m / 2 ^ n, decide (2 ^ n ≤ 2 * (m % 2 ^ n)), decide (2 * (m % 2 ^ n) % 2 ^ n ≠ 0)⟩ := by
  -- The induction is on the places shifted, each of which passes one bit on.
  induction n with
  | zero =>
    show ExtendedMantissa.mk m false false = _
    simp [Nat.mod_one]
  | succ n ih =>
    show (ExtendedMantissa.ofMantissaAndAccuracy m .exact >>> n).shiftRightOne = _
    -- One more place moves one bit from the quotient to the remainder.
    have small : m % 2 ^ n < 2 ^ n := Nat.mod_lt _ (Nat.two_pow_pos n)
    have next : m % 2 ^ (n + 1) = m % 2 ^ n + 2 ^ n * (m / 2 ^ n % 2) := by
      rw [Nat.pow_succ, Nat.mod_mul]
    have twice : 2 * (m % 2 ^ (n + 1)) % 2 ^ (n + 1) = 2 * (m % 2 ^ n) := by
      rw [next, Nat.pow_succ, Nat.mul_add, Nat.mul_left_comm, ← Nat.mul_assoc,
        Nat.add_mul_mod_self_left, Nat.mod_eq_of_lt (by omega)]
    rw [ih, ExtendedMantissa.shiftRightOne, twice, next, Nat.pow_succ, ← Nat.div_div_eq_div_mul]
    generalize m % 2 ^ n = rest at *
    generalize 2 ^ n = unit at *
    generalize m / unit = whole at *
    -- The sticky bit collects whatever the round bit passes on.
    have sticky : (unit ≤ 2 * rest ∨ 2 * rest % unit ≠ 0) ↔ 2 * rest ≠ 0 := by
      rcases Nat.lt_or_ge (2 * rest) unit with below | above
      · rw [Nat.mod_eq_of_lt below]
        omega
      · omega
    -- The round bit is the last bit of the quotient before.
    have bit : (whole % 2 != 0) = decide (unit * 2 ≤ 2 * (rest + unit * (whole % 2))) := by
      rcases Nat.mod_two_eq_zero_or_one whole with even | odd
      · rw [even]
        simp
        omega
      · rw [odd]
        simp
        omega
    dsimp only
    rw [bit, ← Bool.decide_or]
    simp only [sticky]

/-- Rounding what was shifted rounds the quotient half to even. -/
theorem roundedMantissa_shifted (m n : Nat) :
    (ExtendedMantissa.ofMantissaAndAccuracy m .exact >>> n).roundedMantissa =
      roundHalfEven m (2 ^ n) := by
  have small : m % 2 ^ n < 2 ^ n := Nat.mod_lt _ (Nat.two_pow_pos n)
  rw [shifted, ExtendedMantissa.roundedMantissa, roundHalfEven]
  generalize m % 2 ^ n = rest at *
  generalize 2 ^ n = unit at *
  -- Twice the remainder is below the unit, between it and twice the unit, or one of the ends.
  rcases Nat.lt_trichotomy (2 * rest) unit with below | half | above
  · -- Below the half the round bit is clear, so nothing is added.
    rw [if_pos below, decide_eq_false (by omega), Nat.mod_eq_of_lt below]
    by_cases none : 2 * rest = 0
    · rw [decide_eq_false (by omega)]
      rfl
    · rw [decide_eq_true none]
      rfl
  · -- At the half it is the parity that decides.
    rw [if_neg (by omega), if_neg (by omega), decide_eq_true (by omega), half, Nat.mod_self,
      decide_eq_false (by omega)]
    rfl
  · -- Above the half both bits are set.
    have excess : 2 * rest % unit = 2 * rest - unit := by
      rw [Nat.mod_eq_sub_mod above.le, Nat.mod_eq_of_lt (by omega)]
    rw [if_neg (by omega), if_pos above, decide_eq_true (by omega), excess,
      decide_eq_true (by omega)]
    rfl

/-- The sign bit of a packed number. -/
theorem toNat_toBitVec (sign : Sign) :
    sign.toBitVec.toNat * signBit = if sign == .negative then signBit else 0 := by
  cases sign <;> rfl

/-- A number whose exponent does not fit its field is packed as infinity. -/
theorem toNat_pack_full (sign : Sign) {m : Nat} {e : ℤ} (pos : 0 < m) (full : 2047 ≤ (e + 1075).toNat) :
    (pack .binary64 (.finite sign m e pos)).toNat = sign.toBitVec.toNat * signBit + infinityBits := by
  -- The bias of the format and the place of the hidden bit are one offset together.
  have bias : (e + Format.binary64.exponentBias +
      Format.binary64.mantissaBitsWithoutImplicit).toNat = (e + 1075).toNat := by
    show (e + 1023 + 52).toNat = _
    omega
  have large : 2 ^ Format.binary64.exponentBits ≤ (e + 1075).toNat + 1 := by
    show 2 ^ 11 ≤ _
    omega
  have top : (-1#11).toNat * hiddenBit = infinityBits := by decide
  -- The test for infinity is made first, and then there is no fraction.
  delta UnpackedFloat.pack
  dsimp only
  rw [bias, if_pos large, packedInfinity, Word.toNat_packComponents, top]
  exact Nat.add_zero _

/-- The bits of a packed number count the multiples of its last place, up to infinity. -/
theorem toNat_pack_finite (sign : Sign) {m : Nat} {e : ℤ} (pos : 0 < m) (small : m < 2 * hiddenBit)
    (usual : e = leastExponent ∨ hiddenBit ≤ m) (low : leastExponent ≤ e) :
    (pack .binary64 (.finite sign m e pos)).toNat =
      min ((e - leastExponent).toNat * hiddenBit + m) infinityBits +
        if sign == .negative then signBit else 0 := by
  rw [← toNat_toBitVec]
  rcases Nat.lt_or_ge m hiddenBit with below | above
  · -- Without a hidden bit the number stands at the least place.
    obtain rfl := usual.resolve_right (by omega)
    have inRange : m ≤ infinityBits := below.le.trans (by decide)
    rw [Word.toNat_pack_subnormal sign below pos, sub_self, Int.toNat_zero, zero_mul, zero_add,
      Nat.min_eq_left inRange, Nat.add_comm]
  -- With a hidden bit the exponent field counts one more than the steps above the least place.
  obtain ⟨fraction, rfl⟩ := Nat.exists_eq_add_of_le above
  have field : e = ((e + 1075).toNat : ℤ) - 1075 := by
    rw [leastExponent] at low
    omega
  have steps : (e - leastExponent).toNat + 1 = (e + 1075).toNat := by
    rw [leastExponent] at *
    omega
  rcases Nat.lt_or_ge (e + 1075).toNat 2047 with room | full
  · have inRange : (e - leastExponent).toNat * hiddenBit + (hiddenBit + fraction) ≤ infinityBits := by
      simp only [hiddenBit, infinityBits] at *
      omega
    have placed : UnpackedFloat.finite sign (hiddenBit + fraction) e pos =
        .finite sign (hiddenBit + fraction) (((e + 1075).toNat : ℤ) - 1075) pos :=
      Word.finite_congr rfl field
    rw [placed, Word.toNat_pack_normal sign room (by omega), ← steps, Nat.min_eq_left inRange]
    ring
  · -- Without room in the field it is infinity that is packed, and the count is beyond it.
    have beyond : infinityBits ≤ (e - leastExponent).toNat * hiddenBit + (hiddenBit + fraction) := by
      simp only [hiddenBit, infinityBits] at *
      omega
    rw [Nat.min_eq_right beyond, toNat_pack_full sign pos full, Nat.add_comm]

/-- The exponent at which a significand is rounded is its last place. -/
theorem targetExponent_eq {m : Nat} (pos : 0 < m) (e : ℤ) :
    Format.binary64.targetExponent (totalExponent m e) = place (m * 2 ^ e) := by
  -- The logarithm of the significand is the place of its first bit.
  have unit : (0 : ℚ) < 2 ^ e := zpow_pos two_pos _
  have low : (2 : ℚ) ^ (m.log2 : ℤ) ≤ m := by exact_mod_cast Nat.log2_self_le pos.ne'
  have high : (m : ℚ) < 2 ^ ((m.log2 : ℤ) + 1) := by exact_mod_cast Nat.lt_log2_self
  have leading : Int.log 2 ((m : ℚ) * 2 ^ e) = m.log2 + e := by
    refine log_eq ?_ ?_
    · rw [zpow_add₀ two_ne_zero]
      gcongr
    · rw [add_right_comm, zpow_add₀ two_ne_zero]
      gcongr
  rw [place, abs_of_nonneg (by positivity), leading]
  -- The format counts the places from one more on each side, which cancels.
  show max ((m.log2 : ℤ) + 1 + e - 53) (3 - 2 ^ 10 - 53) = max ((m.log2 : ℤ) + e - 52) (-1074)
  omega

/-- A significand with room for its digits is shifted no further. -/
theorem shiftToTargetExponent_of_small {m : Nat} {e : ℤ} (small : m < 2 * hiddenBit)
    (low : leastExponent ≤ e) :
    shiftToTargetExponent .binary64 m e .exact = (⟨m, false, false⟩, e) := by
  -- The significand has 53 bits at most.
  have log : m.log2 ≤ 52 := by
    by_cases none : m = 0
    · simp [none]
    · exact Nat.lt_succ_iff.mp ((Nat.log2_lt none).mpr small)
  have target : Format.binary64.targetExponent (totalExponent m e) ≤ e := by
    rw [leastExponent] at low
    show max ((m.log2 : ℤ) + 1 + e - 53) (3 - 2 ^ 10 - 53) ≤ e
    omega
  rw [shiftToTargetExponent, shiftToExponent, Int.toNat_of_nonpos (by omega)]
  show (ExtendedMantissa.mk m false false, e + 0) = _
  rw [add_zero]

/-- A significand that has grown by a digit is shifted by one place. -/
theorem shiftToTargetExponent_of_carry {e : ℤ} (low : leastExponent ≤ e) :
    shiftToTargetExponent .binary64 (2 * hiddenBit) e .exact =
      (⟨hiddenBit, false, false⟩, e + 1) := by
  -- With one bit more the target is one place further.
  have target : Format.binary64.targetExponent (totalExponent (2 * hiddenBit) e) = e + 1 := by
    have log : (2 * hiddenBit).log2 = 53 := by decide
    rw [leastExponent] at low
    show max (((2 * hiddenBit).log2 : ℤ) + 1 + e - 53) (3 - 2 ^ 10 - 53) = e + 1
    omega
  rw [shiftToTargetExponent, shiftToExponent, target, add_sub_cancel_left]
  rfl

/-- Packing a significand that was shifted to its last place gives the bits that count the rounded one. -/
theorem toNat_pack_shifted (sign : Sign) {m n : Nat} {e p : ℤ} {quotient : ExtendedMantissa}
    (shift : shiftToTargetExponent .binary64 m e .exact = (quotient, p))
    (rounded : quotient.roundedMantissa = n) (least : leastExponent ≤ p) (most : n ≤ 2 * hiddenBit)
    (usual : p = leastExponent ∨ hiddenBit ≤ n) :
    (pack .binary64 (roundWithAccuracy .binary64 sign m e .exact)).toNat =
      min ((p - leastExponent).toNat * hiddenBit + n) infinityBits +
        if sign == .negative then signBit else 0 := by
  -- The first shift rounds; what is rounded is shifted once more if it has carried.
  rw [roundWithAccuracy, shift]
  dsimp only
  rw [rounded]
  rcases Nat.lt_or_ge n (2 * hiddenBit) with room | carry
  · -- Without a carry the second shift does nothing.
    have second := shiftToTargetExponent_of_small room least
    generalize shiftToTargetExponent .binary64 n p .exact = shifted at *
    subst second
    dsimp only
    by_cases none : n = 0
    · -- Only at the least place a number is rounded to zero.
      obtain rfl : p = leastExponent := by
        subst none
        exact usual.resolve_right (by decide)
      rw [dif_pos none, none, sub_self, ← toNat_toBitVec]
      show (packedZero .binary64 sign).toNat = _
      rw [packedZero, Word.toNat_packComponents]
      show _ + 0 * hiddenBit + 0 = min (0 * hiddenBit + 0) infinityBits + _
      rw [zero_mul, Nat.zero_min, add_zero, add_zero, zero_add]
    · rw [dif_neg none]
      exact toNat_pack_finite sign _ room usual least
  · -- With a carry the significand is the hidden bit one place further, which counts the same.
    obtain rfl : n = 2 * hiddenBit := most.antisymm carry
    have second := shiftToTargetExponent_of_carry least
    generalize shiftToTargetExponent .binary64 (2 * hiddenBit) p .exact = shifted at *
    subst second
    dsimp only
    rw [dif_neg (by decide), toNat_pack_finite sign (by decide) (by decide) (.inr le_rfl) (by omega)]
    have next : (p + 1 - leastExponent).toNat = (p - leastExponent).toNat + 1 := by omega
    rw [next]
    ring_nf

/-- Packing a rounded significand gives the bits that count the nearest multiple. -/
theorem toNat_pack_rounded (sign : Sign) {m : Nat} {e : ℤ} (pos : 0 < m)
    (low : e ≤ place (m * 2 ^ e)) :
    ∃ n : Nat, NearestWhole ((m : ℚ) * 2 ^ e / 2 ^ place (m * 2 ^ e)) n ∧
      (pack .binary64 (roundWithAccuracy .binary64 sign m e .exact)).toNat =
        min ((place ((m : ℚ) * 2 ^ e) - leastExponent).toNat * hiddenBit + n) infinityBits +
          if sign == .negative then signBit else 0 := by
  have unit : (0 : ℚ) < 2 ^ e := zpow_pos two_pos _
  -- The shift to the last place divides by the power of two between.
  have near : NearestWhole ((m : ℚ) * 2 ^ e / 2 ^ place (m * 2 ^ e))
      (roundHalfEven m (2 ^ (place ((m : ℚ) * 2 ^ e) - e).toNat)) := by
    have quotient : (m : ℚ) * 2 ^ e / 2 ^ place (m * 2 ^ e) =
        m / (2 ^ (place ((m : ℚ) * 2 ^ e) - e).toNat : Nat) := by
      rw [← Nat.one_shiftLeft, Exact.natCast_one_shiftLeft (by omega), zpow_sub₀ two_ne_zero,
        div_div_eq_mul_div]
    rw [quotient]
    exact roundHalfEven_nearest m (Nat.two_pow_pos _)
  have shift : shiftToTargetExponent .binary64 m e .exact =
      (ExtendedMantissa.ofMantissaAndAccuracy m .exact >>> (place ((m : ℚ) * 2 ^ e) - e).toNat,
        place ((m : ℚ) * 2 ^ e)) := by
    rw [shiftToTargetExponent, shiftToExponent, targetExponent_eq pos, Int.toNat_of_nonneg (by omega),
      add_sub_cancel]
  -- Both shifts and the rounding between them are known, so the bits are.
  obtain ⟨-, most, usual⟩ := significand_bounds (by positivity) near
  have counted := toNat_pack_shifted sign shift (roundedMantissa_shifted m _) (le_max_right _ _)
    (by omega) (by omega)
  exact ⟨_, near, counted⟩

/-- How the library reads a double that is worth something. -/
inductive Parts : UnpackedFloat → ℚ → Prop where
  /-- Zero. -/
  | zero (sign : Sign) : Parts (.zero sign) 0
  /-- A number that fills its last places, unless these are the least ones. -/
  | finite (sign : Sign) {m : Nat} {e : ℤ} (pos : 0 < m) (usual : e = leastExponent ∨ hiddenBit ≤ m)
    (low : leastExponent ≤ e) : Parts (.finite sign m e pos) ((sign.apply m : ℤ) * 2 ^ e)

/-- A sign applies to a size as to any other number. -/
theorem sign_apply (sign : Sign) (n : ℤ) :
    sign.apply n = if sign == .negative then -n else n := by
  cases sign <;> rfl

/-- Signs of factors multiply. -/
theorem sign_mul (s t : Sign) (m n : ℤ) : (s * t).apply (m * n) = s.apply m * t.apply n := by
  -- One case for each pair of signs.
  cases s with
  | positive =>
    cases t with
    | positive => rfl
    | negative => exact (mul_neg m n).symm
  | negative =>
    cases t with
    | positive => exact (neg_mul m n).symm
    | negative => exact (neg_mul_neg m n).symm

section Operations

variable {x y : Float} {p q : ℚ}

/-- A double that is worth something is read in parts that say what it is worth. -/
theorem parts_of_worth (worth : Worth x q) : Parts x.toModel.unpack q := by
  obtain ⟨s, e, finite, rfl⟩ := worth
  -- The bits of the double decide how it is read, and they are what its worth is read from as well.
  have read := reading x
  have sign := isNegative_eq x
  generalize x.toModel.unpack = u at read
  have bits : x.toBits.toNat % signBit = (word x).size := rfl
  rw [exact, magnitude, bits] at finite
  dsimp only at finite
  cases read with
  -- NaN and infinity have no worth.
  | nan beyond =>
    rw [if_pos beyond] at finite
    cases finite
  | infinity full =>
    rw [if_neg (by omega), if_pos full] at finite
    cases finite
  | zero nothing =>
    rw [nothing] at finite
    cases finite
    simpa using Parts.zero (word x).sign
  -- Below the hidden bit there is no exponent, so the place is the least one.
  | subnormal some small =>
    have below : (word x).size < infinityBits := small.trans (by decide)
    rw [if_neg (by omega), if_neg (by omega), if_pos (field_eq_zero.mpr small),
      Nat.mod_eq_of_lt small, sign, ← sign_apply] at finite
    cases finite
    exact .finite _ some (.inl rfl) le_rfl
  -- Otherwise the hidden bit was left out and is put back.
  | normal usual small some =>
    have field : 0 < (word x).size / hiddenBit := Nat.div_pos usual (by decide)
    rw [if_neg (by omega), if_neg (by omega), if_neg field.ne', sign, ← sign_apply] at finite
    cases finite
    refine .finite _ some (.inr (Nat.le_add_right _ _)) ?_
    rw [leastExponent]
    omega

/-- A double packed from a rounded significand is a rounding of the number before. -/
theorem Rounds.of_rounded {sign : Sign} {m : Nat} {e : ℤ} (pos : 0 < m)
    (low : e ≤ place (m * 2 ^ e))
    (packed : x.toModel = Float.Model.pack (roundWithAccuracy .binary64 sign m e .exact)) :
    Rounds ((sign.apply m : ℤ) * 2 ^ e) x := by
  -- Packing gives the bits of the nearest multiple, and those make a rounding.
  obtain ⟨n, near, bits⟩ := toNat_pack_rounded sign pos low
  have positive : (0 : ℚ) < m * 2 ^ e := by positivity
  have word : x.toBits.toNat =
      (pack .binary64 (roundWithAccuracy .binary64 sign m e .exact)).toNat :=
    congrArg (fun model => model.toBits.toNat) packed
  have rounds := Rounds.of_bits positive near (word.trans bits)
  -- The sign goes before both.
  rw [sign_apply]
  split
  · rename_i negative
    rw [if_pos negative] at rounds
    rw [Int.cast_neg, Int.cast_natCast, neg_mul]
    exact rounds
  · rename_i positive
    rw [if_neg positive] at rounds
    rw [Int.cast_natCast]
    exact rounds

/-- A zero is a rounding of zero. -/
theorem Rounds.of_zero {sign : Sign} (packed : x.toModel = Float.Model.pack (.zero sign)) :
    Rounds 0 x := by
  -- The bits of zero are those of the sign, which the remainder drops.
  have word : x.toBits.toNat = (packedZero .binary64 sign).toNat :=
    congrArg (fun model => model.toBits.toNat) packed
  refine .of_no_bits ?_
  rw [word, packedZero, Word.toNat_packComponents]
  show (sign.toBitVec.toNat * signBit + 0 * hiddenBit + 0) % signBit = 0
  rw [zero_mul, add_zero, add_zero, Nat.mul_mod_left]

/-- A double packed from another one as it is read is worth the same. -/
theorem Rounds.of_unpacked (worth : Worth y q)
    (packed : x.toModel = Float.Model.pack y.toModel.unpack) : Rounds q x := by
  -- Only bits that are no NaN are packed again as they were.
  have number : (word y).size ≤ infinityBits := by
    obtain ⟨s, e, finite, -⟩ := worth
    rw [exact] at finite
    dsimp only at finite
    split at finite
    · cases finite
    · rename_i notBeyond
      exact not_lt.mp notBeyond
  have word : x.toBits = y.toBits := by
    have read : (Float.Model.pack y.toModel.unpack).toBits =
        .ofBitVec (pack .binary64 (unpack .binary64 (word y))) := rfl
    rw [Word.pack_unpack _ number] at read
    exact (congrArg Float.Model.toBits packed).trans read
  -- The same bits are worth the same.
  have same : exact x = exact y := by
    unfold exact magnitude isNegative
    rw [word]
  have worth' : Worth x q := by
    rw [Worth, same]
    exact worth
  exact ⟨q, rounding_of_worth worth', .inl ⟨abs_lt_of_worth worth', worth'⟩⟩

/-- A number with a hidden bit counts its last place. -/
theorem le_place {m : Nat} (normal : hiddenBit ≤ m) (e : ℤ) : e ≤ place (m * 2 ^ e) := by
  have unit : (0 : ℚ) < 2 ^ e := zpow_pos two_pos _
  -- The significand has 53 bits, so its first bit stands 52 places above the last.
  have whole : (2 : ℚ) ^ (52 : ℤ) ≤ m := by
    rw [← hiddenBit_eq]
    exact_mod_cast normal
  have size : (2 : ℚ) ^ (52 + e) ≤ m * 2 ^ e := by
    rw [zpow_add₀ two_ne_zero]
    gcongr
  have pos : (0 : ℚ) < m * 2 ^ e := (zpow_pos two_pos _).trans_le size
  have leading := (Int.zpow_le_iff_le_log one_lt_two pos).mp (by exact_mod_cast size)
  rw [place, abs_of_pos pos]
  omega

/-- The product of two doubles is a rounding of the exact product. -/
theorem mul_rounds (worth : Worth x p) (worth' : Worth y q) : Rounds (p * q) (x * y) := by
  have product : (x * y).toModel =
      Float.Model.pack (UnpackedFloat.mul .binary64 x.toModel.unpack y.toModel.unpack) := rfl
  -- Each factor is read as zero or in parts.
  have parts := parts_of_worth worth
  have parts' := parts_of_worth worth'
  generalize x.toModel.unpack = u at *
  generalize y.toModel.unpack = v at *
  cases parts with
  | zero s =>
    rw [zero_mul]
    cases parts' <;> exact .of_zero product
  | @finite s m e pos usual low =>
    cases parts' with
    | zero t =>
      rw [mul_zero]
      exact .of_zero product
    | @finite t n d pos' usual' low' =>
      -- The sign, the significand and the exponent of the product are those of the parts.
      have size : (((s * t).apply ((m * n : Nat) : ℤ) : ℤ) : ℚ) * 2 ^ (e + d) =
          (s.apply m : ℤ) * 2 ^ e * ((t.apply n : ℤ) * 2 ^ d) := by
        rw [Nat.cast_mul, sign_mul, Int.cast_mul, zpow_add₀ two_ne_zero]
        ring
      -- One hidden bit is enough, and without any the product is far below the least place.
      have fits : e + d ≤ place ((m * n : Nat) * 2 ^ (e + d)) := by
        rcases usual with rfl | normal
        · rcases usual' with rfl | normal'
          · have least : leastExponent ≤ place ((m * n : Nat) * 2 ^ (leastExponent + leastExponent)) :=
              le_max_right _ _
            rw [leastExponent] at *
            omega
          · exact le_place (normal'.trans (Nat.le_mul_of_pos_left _ pos)) _
        · exact le_place (normal.trans (Nat.le_mul_of_pos_right _ pos')) _
      rw [← size]
      exact .of_rounded (Nat.mul_pos pos pos') fits product

/-- A significand shifted to a lower place is worth the same. -/
theorem decreaseExponent_worth (m : Nat) (e target : ℤ) :
    ((decreaseExponent m e target).1 : ℚ) * 2 ^ (decreaseExponent m e target).2 = m * 2 ^ e := by
  -- What is multiplied to the significand is divided from the power.
  show ((m <<< (e - target).toNat : Nat) : ℚ) * 2 ^ (e - (e - target).toNat) = _
  rw [Nat.shiftLeft_eq, Nat.cast_mul, Nat.cast_pow, Nat.cast_ofNat, mul_assoc, ← zpow_natCast,
    ← zpow_add₀ two_ne_zero, add_sub_cancel]

/-- Signs do not change with the place. -/
theorem aligned (sign : Sign) (m : Nat) {e target : ℤ} (low : target ≤ e) :
    ((sign.apply (decreaseExponent m e target).1 : ℤ) : ℚ) * 2 ^ target =
      (sign.apply m : ℤ) * 2 ^ e := by
  -- Only the size is moved, and to exactly the place that is asked for.
  have same := decreaseExponent_worth m e target
  have reached : (decreaseExponent m e target).2 = target := by
    show e - ((e - target).toNat : ℤ) = target
    omega
  rw [reached] at same
  cases sign with
  | positive => exact_mod_cast same
  | negative =>
    show ((-((decreaseExponent m e target).1 : ℤ) : ℤ) : ℚ) * _ = ((-(m : ℤ) : ℤ) : ℚ) * _
    rw [Int.cast_neg, Int.cast_neg, neg_mul, neg_mul]
    exact_mod_cast congrArg Neg.neg same

/-- A double packed from a number at any place is a rounding of it. -/
theorem Rounds.of_round {sign : Sign} {m : Nat} {e : ℤ} (pos : 0 < m)
    (packed : x.toModel = Float.Model.pack (round .binary64 sign m e)) :
    Rounds ((sign.apply m : ℤ) * 2 ^ e) x := by
  -- The significand is brought down to its last place, unless it is there already.
  have same := decreaseExponent_worth m e (place (m * 2 ^ e))
  have room : (decreaseExponent m e (place (m * 2 ^ e))).2 ≤ place (m * 2 ^ e) := by
    show e - ((e - place (m * 2 ^ e)).toNat : ℤ) ≤ _
    omega
  have pos' : 0 < (decreaseExponent m e (place (m * 2 ^ e))).1 := by
    show 0 < m <<< _
    rw [Nat.shiftLeft_eq]
    positivity
  rw [UnpackedFloat.round, targetExponent_eq pos] at packed
  dsimp only at packed
  have rounds := Rounds.of_rounded pos' (by rw [same]; exact room) packed
  cases sign with
  | positive => simpa [Sign.apply, same] using rounds
  | negative => simpa [Sign.apply, same] using rounds

/-- A double packed from a normalized number is a rounding of it. -/
theorem Rounds.of_normalized {s e : ℤ} {zero : Sign}
    (packed : x.toModel = Float.Model.pack (UnpackedFloat.normalize .binary64 s e zero)) :
    Rounds (s * 2 ^ e) x := by
  -- The sign is taken off first, and then it is a size that is rounded.
  rcases lt_trichotomy s 0 with negative | rfl | positive
  · rw [UnpackedFloat.normalize, compare_lt_iff_lt.mpr negative] at packed
    have rounds := Rounds.of_round (by omega) packed
    have sign : Sign.negative.apply ((-s).toNat : ℤ) = s := by
      show -((-s).toNat : ℤ) = s
      omega
    rw [sign] at rounds
    exact rounds
  · rw [Int.cast_zero, zero_mul]
    exact .of_zero packed
  · rw [UnpackedFloat.normalize, compare_gt_iff_gt.mpr positive] at packed
    have rounds := Rounds.of_round (by omega) packed
    have sign : Sign.positive.apply (s.toNat : ℤ) = s := by
      show (s.toNat : ℤ) = s
      omega
    rw [sign] at rounds
    exact rounds

/-- The sum of two doubles is a rounding of the exact sum. -/
theorem add_rounds (worth : Worth x p) (worth' : Worth y q) : Rounds (p + q) (x + y) := by
  -- A zero leaves the other number as it is read; otherwise both are brought to the lower place.
  have sum : (x + y).toModel =
      Float.Model.pack (UnpackedFloat.add .binary64 x.toModel.unpack y.toModel.unpack) := rfl
  have parts := parts_of_worth worth
  have parts' := parts_of_worth worth'
  generalize first : x.toModel.unpack = u at *
  generalize second : y.toModel.unpack = v at *
  cases parts with
  | zero s =>
    cases parts' with
    | zero t =>
      rw [add_zero]
      cases s <;> cases t <;> exact .of_zero sum
    | finite t pos usual low =>
      rw [zero_add]
      exact .of_unpacked worth' (second ▸ sum)
  | @finite s m e pos usual low =>
    cases parts' with
    | zero t =>
      rw [add_zero]
      exact .of_unpacked worth (first ▸ sum)
    | @finite t n d pos' usual' low' =>
      -- At one place the significands are added, and the sum is normalized.
      have total : (x + y).toModel = Float.Model.pack (UnpackedFloat.normalize .binary64
          (s.apply (decreaseExponent m e (min e d)).1 + t.apply (decreaseExponent n d (min e d)).1)
          (min e d) .positive) := sum
      have rounds := Rounds.of_normalized total
      rw [Int.cast_add, add_mul, aligned s m (min_le_left e d),
        aligned t n (min_le_right e d)] at rounds
      exact rounds

end Operations

/-- A computation rounds a number to a double, and fails exactly if this is out of range. -/
def Converts (q : ℚ) (c : Except Fault Float) : Prop :=
  ∃ r, Rounding q r ∧
    (|r| < 2 ^ 1024 ∧ (∃ x, c = .ok x ∧ Worth x r) ∨ 2 ^ 1024 ≤ |r| ∧ ∃ fault, c = .error fault)

namespace Converts

variable {x : Float} {q r : ℚ} {c : Except Fault Float}

/-- A double that may not be infinite is a conversion of what rounds to it. -/
theorem of_rounds (rounds : Rounds q x) (fault : Fault) :
    Converts q (if x.isInf then .error fault else .ok x) := by
  -- The test for infinity tells both cases apart.
  obtain ⟨r, rounding, ⟨small, worth⟩ | ⟨large, infinite⟩⟩ := rounds
  · exact ⟨r, rounding, .inl ⟨small, x, if_neg (by simp [isInf_of_worth worth]), worth⟩⟩
  · exact ⟨r, rounding, .inr ⟨large, fault, if_pos infinite⟩⟩

/-- A double that comes out is worth what the number rounds to. -/
theorem exists_rounding (converts : Converts q c) (done : c = .ok x) :
    ∃ r, Rounding q r ∧ Worth x r := by
  subst done
  -- The two cases are told apart by what comes out.
  obtain ⟨r, rounding, ⟨-, y, same, worth⟩ | ⟨-, fault, failed⟩⟩ := converts
  · cases same
    exact ⟨r, rounding, worth⟩
  · cases failed

/-- A number that rounds to one in range is converted. -/
theorem exists_worth (converts : Converts q c) (rounding : Rounding q r) (small : |r| < 2 ^ 1024) :
    ∃ x, c = .ok x ∧ Worth x r := by
  -- There is only one rounding, so it is the one of the conversion.
  obtain ⟨s, rounding', ⟨-, done⟩ | ⟨large, -⟩⟩ := converts
  · rw [rounding.unique rounding']
    exact done
  · rw [rounding.unique rounding'] at small
    exact absurd small (not_lt.mpr large)

/-- A number that is well in range is converted. -/
theorem exists_near (converts : Converts q c) (small : |q| ≤ 2 ^ 1023) :
    ∃ x r, c = .ok x ∧ Rounding q r ∧ Worth x r := by
  -- A number well in range does not round to anything out of range.
  obtain ⟨r, rounding, ⟨-, x, done, worth⟩ | ⟨large, -⟩⟩ := converts
  · exact ⟨x, r, done, rounding, worth⟩
  · exact absurd (rounding.abs_lt small) (not_lt.mpr large)

end Converts

end Spreadsheet.Double

namespace Spreadsheet.Number

open Double

/-- A quotient of whole numbers has the sign that its numbers make, and the size of the quotient of
their sizes. -/
theorem intCast_div_intCast (m : ℤ) {n : ℤ} (some : n ≠ 0) :
    (m : ℚ) / n = if (decide (m < 0) != decide (n < 0)) then -((m.natAbs : ℚ) / n.natAbs)
      else m.natAbs / n.natAbs := by
  -- One case for each pair of signs.
  rcases lt_or_ge m 0 with negative | nonneg
  · rcases lt_or_gt_of_ne some with negative' | positive'
    · simp [negative, negative', Nat.cast_natAbs, abs_of_neg]
    · simp [negative, positive'.not_gt, Nat.cast_natAbs, abs_of_neg, abs_of_pos positive', neg_div]
  · rcases lt_or_gt_of_ne some with negative' | positive'
    · simp [nonneg.not_gt, negative', Nat.cast_natAbs, abs_of_nonneg nonneg, abs_of_neg, div_neg]
    · simp [nonneg.not_gt, positive'.not_gt, Nat.cast_natAbs, abs_of_nonneg nonneg,
        abs_of_pos positive']

/-- The quotient of whole numbers is rounded once. -/
theorem quotient_converts (m : ℤ) {n : ℤ} (some : n ≠ 0) : Converts (m / n) (quotient m n) := by
  -- The sign is split off, and the sizes are divided with one rounding.
  rw [quotient, if_neg some, intCast_div_intCast m some]
  exact .of_rounds (nearest_rounds _ _ (by omega)) _

/-- A whole number is rounded once. -/
theorem floatOfInt_converts (n : ℤ) : Converts n (floatOfInt n) := by
  -- A whole number is its quotient by one.
  have size : (n : ℚ) =
      if decide (n < 0) then -((n.natAbs : ℚ) / (1 : Nat)) else n.natAbs / (1 : Nat) := by
    have quotient := intCast_div_intCast n one_ne_zero
    rw [Int.cast_one, div_one, decide_eq_false (show ¬ (1 : ℤ) < 0 by omega), Bool.bne_false] at quotient
    exact quotient
  rw [floatOfInt, size]
  exact .of_rounds (nearest_rounds _ _ one_pos) _

/-- A whole number of 53 digits is converted as it is. -/
theorem exists_floatOfInt {n : ℤ} (short : n.natAbs < 2 ^ 53) :
    ∃ x, floatOfInt n = .ok x ∧ Double.Worth x n := by
  -- A whole number of 53 digits is its own rounding.
  refine (floatOfInt_converts n).exists_worth (.of_whole short) (Rounding.of_whole short |>.abs_lt ?_)
  have low : |(n : ℚ)| ≤ 2 ^ 53 := by
    rw [← Int.cast_abs, Int.abs_eq_natAbs]
    exact_mod_cast short.le
  exact low.trans (pow_le_pow_right₀ one_le_two (by decide))

/-- A whole number that is not negative becomes a double exactly if it is below the end of their range. -/
theorem floatOfInt_of_nonneg {n : ℤ} (nonneg : 0 ≤ n) :
    n < rangeEnd ∧ (∃ x r, floatOfInt n = .ok x ∧ Rounding n r ∧ Double.Worth x r) ∨
      rangeEnd ≤ n ∧ floatOfInt n = .error .wholeTooLarge := by
  have nonneg' : (0 : ℚ) ≤ n := by exact_mod_cast nonneg
  -- Whether the rounding is in range is decided by the number itself, as rounding is monotone.
  obtain ⟨r, rounding, ⟨small, x, done, worth⟩ | ⟨large, fault, failed⟩⟩ := floatOfInt_converts n
  · left
    rw [abs_of_nonneg (rounding.nonneg nonneg'), rounding.lt_iff_of_nonneg nonneg'] at small
    exact ⟨by exact_mod_cast small, x, r, done, rounding, worth⟩
  · right
    rw [abs_of_nonneg (rounding.nonneg nonneg'), ← not_lt, rounding.lt_iff_of_nonneg nonneg',
      not_lt] at large
    refine ⟨by exact_mod_cast large, ?_⟩
    -- The only fault of this conversion is that the number is too large.
    rw [floatOfInt] at failed ⊢
    split at failed
    · rename_i infinite
      exact if_pos infinite
    · cases failed

/-- A whole number is rounded before a double is added. -/
theorem add_float (n : ℤ) (y : Float) :
    (whole n).add (float y) = floatOfInt n >>= fun x => .ok (float (x + y)) := rfl

/-- A whole number is rounded before it is multiplied by a double. -/
theorem mul_float (n : ℤ) (y : Float) :
    (whole n).mul (float y) = floatOfInt n >>= fun x => .ok (float (x * y)) := rfl

/-- A whole number is rounded before a double is multiplied by it. -/
theorem float_mul (x : Float) (n : ℤ) :
    (float x).mul (whole n) = floatOfInt n >>= fun y => .ok (float (x * y)) := rfl

/-- A product with a double rounds the other number to a double. -/
theorem mul_double (a : Number) (z : Float) :
    a.mul (.float z) = a.toFloat >>= fun w => .ok (.float (w * z)) := by
  cases a <;> rfl

/-- The difference of whole numbers is exact. -/
theorem sub_whole (m n : ℤ) : (whole m).sub (whole n) = .ok (whole (m - n)) := rfl

/-- Whole numbers are divided before they are rounded. -/
theorem div_whole (m n : ℤ) :
    (whole m).div (whole n) = quotient m n >>= fun x => .ok (float x) := rfl

end Spreadsheet.Number
