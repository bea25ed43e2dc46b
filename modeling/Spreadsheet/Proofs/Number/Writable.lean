import Mathlib.Algebra.Order.Ring.Int
import Spreadsheet.Value.Convert

/-!
Numbers that are short enough to be written. Every double is: those that stand for whole numbers
stay far below the limit of digits.
-/

namespace Spreadsheet

namespace Double

/-- A magnitude below infinity has a significand of 53 bits and an exponent of at most 971. -/
theorem magnitude_bounds {x : Float} (below : x.toBits.toNat % signBit < infinityBits) :
    (magnitude x).1 < 2 ^ 53 ∧ (magnitude x).2 ≤ 971 := by
  -- The bits are split into the exponent and the fraction, each with its own bound.
  have fraction : x.toBits.toNat % signBit % hiddenBit < hiddenBit := Nat.mod_lt _ (by decide)
  have field : x.toBits.toNat % signBit / hiddenBit < 2047 :=
    (Nat.div_lt_iff_lt_mul (by decide)).mpr below
  unfold magnitude
  dsimp only
  split
  · -- Subnormal doubles have no hidden bit and the least exponent.
    have least : leastExponent ≤ 971 := by decide
    exact ⟨fraction.trans (by decide), least⟩
  · -- All others have the hidden bit on top of the fraction.
    refine ⟨?_, by omega⟩
    simp only [hiddenBit] at fraction ⊢
    omega

/-- A finite double has a significand of 53 bits and an exponent of at most 971. -/
theorem exact_bounds {x : Float} {significand exponent : Int}
    (finite : exact x = .finite significand exponent) :
    significand.natAbs < 2 ^ 53 ∧ exponent ≤ 971 := by
  -- Neither of the two exceptions is finite, so the bits below infinity are what is left.
  unfold exact at finite
  dsimp only at finite
  split at finite
  · cases finite
  · split at finite
    · cases finite
    · rename_i number small
      have bounds := magnitude_bounds (x := x) (by omega)
      simp only [Exact.finite.injEq] at finite
      obtain ⟨rfl, rfl⟩ := finite
      split <;> omega

/-- The whole number below a finite value is bounded by its significand and its exponent. -/
theorem Exact.natAbs_floor_lt {significand exponent : Int} {bits places : Nat}
    (short : significand.natAbs < 2 ^ bits) (low : exponent ≤ places) :
    (Exact.floor significand exponent).natAbs < 2 ^ (bits + places) := by
  -- An exponent that is not negative multiplies the significand, a negative one divides it.
  unfold Exact.floor
  split
  · have factor : 2 ^ exponent.toNat ≤ 2 ^ places := Nat.pow_le_pow_right (by decide) (by omega)
    rw [Int.natAbs_mul, Int.natAbs_natCast, Nat.one_shiftLeft, Nat.pow_add]
    exact Nat.mul_lt_mul_of_lt_of_le short factor (Nat.two_pow_pos _)
  · -- A quotient is no larger than what is divided.
    rw [Int.fdiv_eq_ediv_of_nonneg _ (Int.natCast_nonneg _)]
    have more : 2 ^ bits ≤ 2 ^ (bits + places) := Nat.pow_le_pow_right (by decide) (by omega)
    exact ((Int.natAbs_ediv_le_natAbs _ _).trans_lt short).trans_le more

end Double

namespace Number

/-- A number that is short enough to be written. -/
def Writable : Number → Prop
  | whole n => n.natAbs < 10 ^ digitLimit
  | float _ | nan _ => True

/-- A double that stands for a whole number stands for a short one. -/
theorem wholeOfFloat?_writable {x : Float} {n : Int} (stands : wholeOfFloat? x = some n) :
    (whole n).Writable := by
  -- A whole double is its significand times a power of two, which has at most 1024 bits.
  unfold wholeOfFloat? at stands
  split at stands
  · rename_i significand exponent finite
    dsimp only at stands
    split at stands
    · cases stands
      obtain ⟨short, low⟩ := Double.exact_bounds finite
      exact (Double.Exact.natAbs_floor_lt short low).trans (by decide +kernel)
    · cases stands
  · cases stands

/-- A number that is short enough has a text. -/
theorem exists_text {n : Number} (writable : n.Writable) : ∃ s, n.text = .ok s := by
  -- What is written is the number after it was made whole where it can be.
  have short : n.normalize.Writable := by
    unfold normalize
    split
    · exact writable
    · split
      · rename_i stands
        exact wholeOfFloat?_writable stands
      · trivial
    · trivial
  -- Only whole numbers can be too long.
  unfold text
  split
  · rename_i m normal
    rw [normal, Writable] at short
    -- The limit is a large number that must not be calculated.
    generalize digitLimit = limit at short ⊢
    have below : ¬Nat.pow 10 limit ≤ m.natAbs := by
      rw [Nat.pow_eq]
      omega
    exact ⟨_, if_neg below⟩
  · exact ⟨_, rfl⟩
  · exact ⟨_, rfl⟩

end Number

end Spreadsheet
