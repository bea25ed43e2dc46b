import Mathlib.Algebra.Order.Ring.Int
import Mathlib.Order.Compare
import Spreadsheet.Number.Power

/-!
Doubles and zero: how the library reads the bits of a double says what the double is worth, so that only
zero equals zero and only what is worth less is below it. Rounding a whole number keeps both.
-/

namespace Spreadsheet.Double

open Float.Model UnpackedFloat

/-- A full exponent field begins with the bits of infinity. -/
theorem field_eq_full {size : Nat} (small : size < signBit) :
    size / hiddenBit = 2047 ↔ infinityBits ≤ size := by
  simp only [hiddenBit, infinityBits, signBit] at *
  omega

/-- An empty exponent field leaves the fraction alone. -/
theorem field_eq_zero {size : Nat} : size / hiddenBit = 0 ↔ size < hiddenBit :=
  Nat.div_eq_zero_iff_lt (by decide)

/-- From infinity on the fraction tells how far a size is beyond. -/
theorem fraction_of_full {size : Nat} (full : infinityBits ≤ size) (small : size < signBit) :
    size % hiddenBit = size - infinityBits := by
  simp only [hiddenBit, infinityBits, signBit] at *
  omega

/-- The bits of a double as the library reads them. -/
abbrev Word := BitVec Format.binary64.numBits

namespace Word

variable (b : Word)

/-- All bits of a word but the sign. -/
def size : Nat := b.toNat % signBit

/-- The sign of a word. -/
def sign : Sign := Sign.ofBitVec (unpackSign b)

/-- A size has no sign bit. -/
theorem size_lt : b.size < signBit := Nat.mod_lt _ (by decide)

/-- The lowest bits of a word are its fraction. -/
theorem toNat_unpackMantissa : (unpackMantissa b).toNat = b.size % hiddenBit := by
  -- The fields are cut out by shifts and remainders, which arithmetic compares.
  simp only [unpackMantissa, size, hiddenBit, signBit, BitVec.toNat_cast, BitVec.extractLsb_toNat,
    Nat.shiftRight_eq_div_pow]
  omega

/-- Between fraction and sign stands the exponent field. -/
theorem toNat_unpackExponent : (unpackExponent b).toNat = b.size / hiddenBit := by
  simp only [unpackExponent, size, hiddenBit, signBit, BitVec.toNat_cast, BitVec.extractLsb_toNat,
    Nat.shiftRight_eq_div_pow]
  omega

/-- The topmost bit is the sign. -/
theorem toNat_unpackSign : (unpackSign b).toNat = b.toNat / signBit := by
  -- Nothing stands above the sign.
  have word : b.toNat < 2 ^ 64 := b.isLt
  delta unpackSign
  simp only [signBit, BitVec.toNat_cast, BitVec.extractLsb_toNat,
    Nat.shiftRight_eq_div_pow, Nat.reduceAdd, Nat.reduceSub, Nat.reducePow] at *
  omega

/-- A word is negative if its topmost bit is set. -/
theorem sign_eq : b.sign = if signBit ≤ b.toNat then .negative else .positive := by
  -- The topmost bit is a quotient, which is zero or one.
  have clear : unpackSign b = 0#1 ↔ ¬ signBit ≤ b.toNat := by
    rw [← BitVec.toNat_inj, toNat_unpackSign]
    show b.toNat / signBit = 0 ↔ ¬ signBit ≤ b.toNat
    rw [Nat.div_eq_zero_iff, not_le]
    exact or_iff_right (by decide)
  rw [sign, Sign.ofBitVec]
  simp only [clear, ite_not]

/-- A significand with its leading bit. -/
theorem toNat_significand :
    (1#1 ++ unpackMantissa b).toNat = hiddenBit + b.size % hiddenBit := by
  rw [BitVec.toNat_append, toNat_unpackMantissa]
  -- The hidden bit stands right above the fraction, so they are added.
  have small : b.size % hiddenBit < 2 ^ Format.binary64.mantissaBitsWithoutImplicit :=
    Nat.mod_lt _ (by decide)
  exact (Nat.two_pow_add_eq_or_of_lt small 1).symm

/-- How the library reads a word of each size. -/
inductive Reading : UnpackedFloat → Prop where
  /-- Beyond infinity nothing is a number. -/
  | nan (beyond : infinityBits < b.size) : Reading .notANumber
  /-- Infinity. -/
  | infinity (full : b.size = infinityBits) : Reading (.infinity b.sign)
  /-- Zero. -/
  | zero (nothing : b.size = 0) : Reading (.zero b.sign)
  /-- A number without a hidden bit. -/
  | subnormal (some : 0 < b.size) (small : b.size < hiddenBit) :
    Reading (.finite b.sign b.size leastExponent some)
  /-- A number with a hidden bit. -/
  | normal (usual : hiddenBit ≤ b.size) (small : b.size < infinityBits)
    (some : 0 < hiddenBit + b.size % hiddenBit) :
    Reading (.finite b.sign (hiddenBit + b.size % hiddenBit) ((b.size / hiddenBit : Nat) - 1075) some)

/-- Finite numbers with the same parts are the same. -/
theorem finite_congr {sign : Sign} {m n : Nat} {d e : Int} {positive : 0 < m} {positive' : 0 < n}
    (significand : m = n) (exponent : d = e) :
    UnpackedFloat.finite sign m d positive = .finite sign n e positive' := by
  subst significand exponent
  rfl

/-- Every word is read by its size. -/
theorem reading : Reading b (unpack .binary64 b) := by
  -- The fields are compared as numbers, so each condition of the library becomes one on the size.
  have mantissa := toNat_unpackMantissa b
  have full : unpackExponent b = -1#11 ↔ b.size / hiddenBit = 2047 := by
    rw [← BitVec.toNat_inj, toNat_unpackExponent]
    rfl
  have zero : unpackExponent b = 0#11 ↔ b.size / hiddenBit = 0 := by
    rw [← BitVec.toNat_inj, toNat_unpackExponent]
    rfl
  have none : unpackMantissa b = 0#52 ↔ b.size % hiddenBit = 0 := by
    rw [← BitVec.toNat_inj, mantissa]
    rfl
  delta UnpackedFloat.unpack
  dsimp only
  generalize bound : ((Format.binary64.exponentBias : Int) + (52 : Nat)) = bias
  have bound : bias = 1075 := bound.symm
  -- The cases are those of the library: a full field, an empty one, and any other.
  by_cases top : b.size / hiddenBit = 2047
  · have beyond := (field_eq_full b.size_lt).mp top
    have fraction := fraction_of_full beyond b.size_lt
    rw [if_pos (full.mpr top)]
    by_cases nothing : b.size % hiddenBit = 0
    · rw [if_pos (none.mpr nothing)]
      exact .infinity (by omega)
    · rw [if_neg (mt none.mp nothing)]
      exact .nan (by omega)
  have below : b.size < infinityBits := not_le.mp (mt (field_eq_full b.size_lt).mpr top)
  rw [if_neg (mt full.mp top)]
  by_cases low : b.size / hiddenBit = 0
  · have small := field_eq_zero.mp low
    have fraction : b.size % hiddenBit = b.size := Nat.mod_eq_of_lt small
    rw [if_pos (zero.mpr low)]
    by_cases nothing : b.size % hiddenBit = 0
    · rw [dif_pos (none.mpr nothing)]
      exact .zero (fraction.symm.trans nothing)
    · rw [dif_neg (mt none.mp nothing)]
      have some : 0 < b.size := by omega
      have exponent : ((unpackExponent b).toNat : Int) - bias + 1 = leastExponent := by
        rw [toNat_unpackExponent, low, bound]
        rfl
      rw [finite_congr (mantissa.trans fraction) exponent]
      exact .subnormal some small
  · have usual : hiddenBit ≤ b.size := not_lt.mp (mt field_eq_zero.mpr low)
    have exponent : ((unpackExponent b).toNat : Int) - bias = (b.size / hiddenBit : Nat) - 1075 := by
      rw [toNat_unpackExponent, bound]
    rw [if_neg (mt zero.mp low), finite_congr (toNat_significand b) exponent]
    exact .normal usual below (Nat.add_pos_left (by decide) _)

/-- The bits that the fields of a number stand for. -/
theorem toNat_packComponents (sign : Sign) (exponent : BitVec Format.binary64.exponentBits)
    (mantissa : BitVec Format.binary64.mantissaBitsWithoutImplicit) :
    (packComponents .binary64 sign exponent mantissa).toNat =
      sign.toBitVec.toNat * signBit + exponent.toNat * hiddenBit + mantissa.toNat := by
  -- Each field stands above those behind it, so joining them adds them up.
  have h1 : exponent.toNat < 2 ^ 11 := exponent.isLt
  have h2 : mantissa.toNat < 2 ^ 52 := mantissa.isLt
  rw [packComponents, BitVec.toNat_append, BitVec.toNat_append,
    Nat.shiftLeft_eq, Nat.shiftLeft_eq, mul_comm _ (2 ^ 52), ← Nat.two_pow_add_eq_or_of_lt h2]
  show 2 ^ 52 * (sign.toBitVec.toNat * 2 ^ 11 ||| exponent.toNat) + mantissa.toNat = _
  rw [mul_comm _ (2 ^ 11), ← Nat.two_pow_add_eq_or_of_lt h1]
  simp only [signBit, hiddenBit]
  omega

/-- The topmost bit that a sign stands for. -/
theorem toNat_sign : b.sign.toBitVec.toNat = b.toNat / signBit := by
  have word : b.toNat < 2 ^ 64 := b.isLt
  -- A word is negative if its topmost bit is set, and positive otherwise.
  rw [sign_eq]
  split
  · show 1 = _
    simp only [signBit] at *
    omega
  · show 0 = _
    simp only [signBit] at *
    omega

/-- A number without a hidden bit is packed as its fraction. -/
theorem toNat_pack_subnormal (sign : Sign) {fraction : Nat} (small : fraction < hiddenBit)
    (some : 0 < fraction) :
    (pack .binary64 (.finite sign fraction leastExponent some)).toNat =
      sign.toBitVec.toNat * signBit + fraction := by
  -- The leading bit stands too low for a hidden one, so the exponent field stays empty.
  have short : ¬ fraction.log2 + 1 = Format.binary64.mantissaBits := by
    have log := (Nat.log2_lt some.ne').mpr (show fraction < 2 ^ 52 from small)
    show ¬ fraction.log2 + 1 = 53
    omega
  have kept : (BitVec.ofNat Format.binary64.mantissaBitsWithoutImplicit fraction).toNat = fraction :=
    Nat.mod_eq_of_lt small
  delta UnpackedFloat.pack
  dsimp only
  rw [if_neg (by decide), if_neg short, toNat_packComponents, kept]
  show _ + 0 * hiddenBit + _ = _
  omega

/-- A number with a hidden bit is packed as its exponent field and its fraction. -/
theorem toNat_pack_normal (sign : Sign) {field fraction : Nat} (room : field < 2047)
    (small : fraction < hiddenBit) (some : 0 < hiddenBit + fraction) :
    (pack .binary64 (.finite sign (hiddenBit + fraction) (field - 1075) some)).toNat =
      sign.toBitVec.toNat * signBit + field * hiddenBit + fraction := by
  -- The hidden bit is the leading one, which makes the number a normal one.
  have log : (hiddenBit + fraction).log2 = 52 := by
    refine (Nat.log2_eq_iff some.ne').mpr ⟨Nat.le_add_right _ _, ?_⟩
    simp only [hiddenBit] at *
    omega
  have long : (hiddenBit + fraction).log2 + 1 = Format.binary64.mantissaBits := by
    rw [log]
    rfl
  have biased : ((field - 1075 : Int) + Format.binary64.exponentBias +
      Format.binary64.mantissaBitsWithoutImplicit).toNat = field := by
    show ((field - 1075 : Int) + 1023 + 52).toNat = field
    omega
  have inRange : ¬ 2 ^ Format.binary64.exponentBits ≤ field + 1 := by
    show ¬ 2 ^ 11 ≤ field + 1
    omega
  have exponent : (BitVec.ofNat Format.binary64.exponentBits field).toNat = field :=
    Nat.mod_eq_of_lt (room.trans (by decide))
  -- The hidden bit does not fit into the fraction.
  have mantissa : (BitVec.ofNat Format.binary64.mantissaBitsWithoutImplicit
      (hiddenBit + fraction)).toNat = fraction := by
    show (hiddenBit + fraction) % hiddenBit = fraction
    rw [Nat.add_mod_left, Nat.mod_eq_of_lt small]
  delta UnpackedFloat.pack
  dsimp only
  rw [biased, if_neg inRange, if_pos long, toNat_packComponents, exponent, mantissa]

/-- Packing what was read from a word that is a number gives the word again. -/
theorem pack_unpack (number : b.size ≤ infinityBits) :
    pack .binary64 (unpack .binary64 b) = b := by
  have read := b.reading
  have sign := b.toNat_sign
  -- A word is its sign and its size, and each way to read it keeps both.
  have whole : b.toNat = b.toNat / signBit * signBit + b.size := (Nat.div_add_mod' _ _).symm
  rw [← BitVec.toNat_inj]
  generalize unpack .binary64 b = u at read
  -- The cases are the ways to read a word, and only NaN would lose bits.
  cases read with
  | nan beyond => omega
  | infinity full =>
    have top : (-1#11).toNat * hiddenBit = infinityBits := by decide
    show (packedInfinity .binary64 b.sign).toNat = b.toNat
    rw [packedInfinity, toNat_packComponents, sign, top]
    show _ + _ + 0 = _
    omega
  | zero nothing =>
    show (packedZero .binary64 b.sign).toNat = b.toNat
    rw [packedZero, toNat_packComponents, sign]
    show _ + 0 * hiddenBit + 0 = _
    omega
  | subnormal some small =>
    rw [toNat_pack_subnormal _ small, sign]
    exact whole.symm
  | normal usual small some =>
    have room : b.size / hiddenBit < 2047 := (Nat.div_lt_iff_lt_mul (by decide)).mpr small
    have parts := Nat.div_add_mod' b.size hiddenBit
    rw [toNat_pack_normal _ room (Nat.mod_lt _ (by decide)), sign, add_assoc, parts]
    exact whole.symm

end Word

/-- The word of a double. -/
def word (x : Float) : Word := x.toModel.toBits.toBitVec

/-- A double is negative if its word is. -/
theorem isNegative_eq (x : Float) : isNegative x = ((word x).sign == .negative) := by
  rw [Word.sign_eq]
  show decide (signBit ≤ (word x).toNat) = _
  by_cases large : signBit ≤ (word x).toNat
  · rw [decide_eq_true large, if_pos large]
    rfl
  · rw [decide_eq_false large, if_neg large]
    rfl

/-- The double with the bits of a number has these bits. -/
theorem toBits_ofBits {bits : UInt64} (number : bits.toNat % signBit ≤ infinityBits) :
    (Float.ofBits bits).toBits = bits := by
  -- The bits stand for a number, so packing what was read from them gives them back.
  have same : pack .binary64 (unpack .binary64 bits.toBitVec) = bits.toBitVec :=
    Word.pack_unpack bits.toBitVec number
  show UInt64.ofBitVec (pack .binary64 (unpack .binary64 bits.toBitVec)) = bits
  rw [same]

/-- Zero is read as the positive zero. -/
theorem unpack_zero : (0.0 : Float).toModel.unpack = .zero .positive := rfl

/-- A double is read by the size of its word. -/
theorem reading (x : Float) : (word x).Reading x.toModel.unpack := (word x).reading

/-- Only the two zeros equal zero. -/
theorem size_of_beq_zero {x : Float} (equal : (x == 0.0) = true) : (word x).size = 0 := by
  have compared : x.toModel.unpack.compare (0.0 : Float).toModel.unpack = some .eq :=
    eq_of_beq equal
  have read := reading x
  rw [unpack_zero] at compared
  generalize x.toModel.unpack = u at *
  -- Other numbers are above or below zero by their sign.
  cases read with
  | zero nothing => exact nothing
  | nan => cases compared
  | infinity | subnormal | normal =>
    generalize (word x).sign = sign at compared
    cases sign <;> cases compared

/-- Only doubles with a sign are below zero, and they are numbers. -/
theorem size_of_lt_zero {x : Float} (below : x < 0.0) :
    isNegative x = true ∧ (word x).size ≤ infinityBits := by
  have compared : x.toModel.unpack.compare (0.0 : Float).toModel.unpack = some .lt :=
    eq_of_beq (of_decide_eq_true below)
  have read := reading x
  rw [unpack_zero] at compared
  rw [isNegative_eq]
  generalize x.toModel.unpack = u at *
  -- NaN is not below anything.
  have number : (word x).size ≤ infinityBits := by
    cases read with
    | zero | nan => cases compared
    | infinity full => exact full.le
    | subnormal some small => exact small.le.trans (by decide)
    | normal usual small some => exact small.le
  refine ⟨?_, number⟩
  cases read with
  | zero | nan => cases compared
  | infinity | subnormal | normal =>
    generalize (word x).sign = sign at *
    -- A positive sign would put the double above zero.
    cases sign with
    | positive => cases compared
    | negative => rfl

/-- No size is beyond infinity. -/
theorem nearestBits_le (num den : Nat) : nearestBits num den ≤ infinityBits := by
  unfold nearestBits
  -- Zero has no bits at all, and any other size is capped.
  split
  · exact Nat.zero_le _
  · exact Nat.min_le_right _ _

/-- The last place of a double near to a positive whole number is above that of the smallest ones. -/
theorem leastExponent_lt_lastPlace (num : Nat) : leastExponent < lastPlace num 1 := by
  have log : Nat.log2 1 = 0 := by decide
  rw [lastPlace, log]
  dsimp only
  -- The leading bit stands no lower than one place below the unit.
  rw [leastExponent]
  split <;> omega

/-- The double nearest to a whole number that is not zero has some bits. -/
theorem nearestBits_pos {num : Nat} (some : num ≠ 0) : 0 < nearestBits num 1 := by
  have place := leastExponent_lt_lastPlace num
  rw [nearestBits, if_neg some]
  dsimp only
  -- Each step above the least place counts as much as a hidden bit.
  have steps : 0 < (lastPlace num 1 - leastExponent).toNat * hiddenBit :=
    Nat.mul_pos (by omega) (by decide)
  exact lt_min (Nat.add_pos_left steps _) (by decide)

/-- The bits of the double nearest to a quotient are those of its size and its sign. -/
theorem toBits_nearest (negative : Bool) (num den : Nat) :
    (nearest negative num den).toBits.toNat =
      nearestBits num den + if negative then signBit else 0 := by
  have size := nearestBits_le num den
  have small := size.trans_lt (show infinityBits < signBit by decide)
  -- Size and sign fit in a word, and the size is that of a number.
  have room : nearestBits num den + (if negative then signBit else 0) < 2 ^ 64 := by
    simp only [signBit] at *
    split <;> omega
  have bits : (UInt64.ofNat (nearestBits num den + if negative then signBit else 0)).toNat =
      nearestBits num den + if negative then signBit else 0 := by
    rw [UInt64.toNat_ofNat', Nat.mod_eq_of_lt room]
  have number : (nearestBits num den + if negative then signBit else 0) % signBit ≤ infinityBits := by
    cases negative <;> simp [Nat.mod_eq_of_lt small, size]
  rw [nearest, toBits_ofBits (by rw [bits]; exact number), bits]

/-- The double nearest to a whole number that is not zero is not zero. -/
theorem nearest_ne_zero (negative : Bool) {num : Nat} (some : num ≠ 0) :
    (nearest negative num 1 == 0.0) = false := by
  rw [← Bool.not_eq_true]
  intro equal
  -- Some bits beside the sign are set.
  have nothing : (nearest negative num 1).toBits.toNat % signBit = 0 := size_of_beq_zero equal
  have bits := nearestBits_pos some
  have small := (nearestBits_le num 1).trans_lt (show infinityBits < signBit by decide)
  rw [toBits_nearest] at nothing
  cases negative with
  | true =>
    rw [if_pos rfl, Nat.add_mod_right, Nat.mod_eq_of_lt small] at nothing
    omega
  | false =>
    rw [if_neg (by decide), add_zero, Nat.mod_eq_of_lt small] at nothing
    omega

/-- A double nearest to a number that is not negative has no sign. -/
theorem isNegative_nearest (num den : Nat) : isNegative (nearest false num den) = false := by
  have small := (nearestBits_le num den).trans_lt (show infinityBits < signBit by decide)
  rw [isNegative, toBits_nearest, if_neg (by decide), add_zero]
  exact decide_eq_false small.not_ge

/-- A double that equals zero is worth zero. -/
theorem exact_of_beq_zero {x : Float} (equal : (x == 0.0) = true) :
    exact x = .finite 0 leastExponent := by
  -- Nothing is left of the double but its sign.
  have nothing : x.toBits.toNat % signBit = 0 := size_of_beq_zero equal
  rw [exact, magnitude, nothing]
  simp [infinityBits]

/-- A double below zero is worth a number that is not positive, or negative infinity. -/
theorem exact_of_lt_zero {x : Float} (below : x < 0.0) :
    exact x = .infinite true ∨ ∃ n e, n ≤ 0 ∧ exact x = .finite n e := by
  obtain ⟨negative, number⟩ := size_of_lt_zero below
  have number : x.toBits.toNat % signBit ≤ infinityBits := number
  rw [exact, negative, if_neg number.not_gt]
  -- The sign is that of the significand.
  by_cases full : x.toBits.toNat % signBit = infinityBits
  · exact .inl (if_pos full)
  · exact .inr ⟨_, _, by simp, if_neg full⟩

end Spreadsheet.Double

namespace Spreadsheet.Number

variable {a : Number} {y : Float}

/-- A whole number in range becomes the double nearest to it. -/
theorem eq_nearest_of_floatOfInt {n : Int} (done : floatOfInt n = .ok y) :
    y = Double.nearest (n < 0) n.natAbs 1 := by
  -- Numbers out of range have no double.
  rw [floatOfInt] at done
  split at done
  · cases done
  · cases done
    rfl

/-- A number whose double equals zero is zero. -/
theorem isZero_of_toFloat (done : a.toFloat = .ok y) (zero : (y == 0.0) = true) :
    a.isZero = true := by
  -- Doubles are their own doubles, so only whole numbers are rounded.
  cases a with
  | whole n =>
    have near := eq_nearest_of_floatOfInt done
    by_cases nothing : n = 0
    · rw [nothing]
      rfl
    · -- Rounding does not make a number zero.
      have some := Double.nearest_ne_zero (n < 0) (Int.natAbs_ne_zero.mpr nothing)
      rw [← near, zero] at some
      cases some
  | float x =>
    cases done
    show ((Double.exact y).compare? (.finite 0 0) == some .eq) = true
    rw [Double.exact_of_beq_zero zero]
    rfl
  | nan origin =>
    cases done
    exact absurd zero (by decide +kernel)

/-- A number that is not positive is below one. -/
theorem compare?_one {n e : Int} (low : n ≤ 0) :
    (Double.Exact.finite n e).compare? (whole 1).exact = some .lt := by
  have left : n * (1 <<< (e - min e 0).toNat : Nat) ≤ 0 :=
    mul_nonpos_of_nonpos_of_nonneg low (Int.natCast_nonneg _)
  have right : 0 < (1 : Int) * ((1 <<< (0 - min e 0).toNat : Nat) : Int) := by
    rw [one_mul, Nat.one_shiftLeft]
    exact Int.natCast_pos.mpr (Nat.two_pow_pos _)
  -- Both are compared as whole numbers at the finer of their places.
  simp only [exact, Double.Exact.compare?]
  rw [compare_lt_iff_lt.mpr (left.trans_lt right)]

/-- A number whose double is below zero is below one. -/
theorem below_one_of_toFloat (done : a.toFloat = .ok y) (negative : y < 0.0) :
    a.below (whole 1) = true := by
  rw [below, compare?]
  cases a with
  -- The double of a whole number below zero is below zero as the number is.
  | whole n =>
    have near := eq_nearest_of_floatOfInt done
    have sign := (Double.size_of_lt_zero negative).1
    by_cases low : n < 0
    · have compared := compare?_one (e := 0) low.le
      rw [exact, compared]
      rfl
    · -- Rounding does not make a number negative.
      rw [near, decide_eq_false low, Double.isNegative_nearest] at sign
      cases sign
  | float x =>
    cases done
    rcases Double.exact_of_lt_zero negative with infinite | ⟨n, e, low, worth⟩
    · have least : (float y).exact = .infinite true := infinite
      rw [least]
      rfl
    · have finite : (float y).exact = .finite n e := worth
      rw [finite, compare?_one low]
      rfl
  | nan origin =>
    cases done
    exact absurd negative (by decide +kernel)

end Spreadsheet.Number
