import Spreadsheet.Proofs.Number.Arithmetic
import Spreadsheet.Proofs.Number.Faults

/-!
When powers are complex: exactly for a base below zero and an exponent that is no whole number, both of
them finite as doubles.
-/

namespace Spreadsheet.Double

open Float.Model UnpackedFloat

variable {x : Float} {q : ℚ}

/-- A double that is worth something is a number. -/
theorem isNaN_of_worth (worth : Worth x q) : x.isNaN = false := by
  -- What is worth something is zero or finite, by its parts.
  have parts := parts_of_worth worth
  show x.toModel.unpack.isNaN = false
  generalize x.toModel.unpack = u at parts
  cases parts <;> rfl

/-- A double that is a number and not infinite is worth something. -/
theorem exists_worth (number : x.isNaN = false) (finite : x.isInf = false) : ∃ q, Worth x q := by
  -- The words of infinities and of what is no number begin where those of finite doubles end.
  have read := reading x
  have notNaN : x.toModel.unpack.isNaN = false := number
  have notInf : x.toModel.unpack.isInf = false := finite
  have below : x.toBits.toNat % signBit < infinityBits := by
    show (word x).size < infinityBits
    generalize x.toModel.unpack = u at *
    cases read with
    | nan => cases notNaN
    | infinity => cases notInf
    | zero nothing => rw [nothing]; decide
    | subnormal some small => exact small.trans (by decide)
    | normal usual small => exact small
  obtain ⟨s, e, finite⟩ : ∃ s e, exact x = .finite s e := by
    rw [exact, if_neg (by omega), if_neg (by omega)]
    exact ⟨_, _, rfl⟩
  exact ⟨_, s, e, finite, rfl⟩

/-- A double that is worth something is below zero as what it is worth is. -/
theorem lt_zero_iff_of_worth (worth : Worth x q) : x < 0.0 ↔ q < 0 := by
  have parts := parts_of_worth worth
  -- The order of doubles is that of their unpacked parts, and zero is one of these.
  have compared : x < 0.0 ↔ x.toModel.unpack.compare (0.0 : Float).toModel.unpack = some .lt :=
    ⟨fun below => eq_of_beq (of_decide_eq_true below), fun below => decide_eq_true (beq_of_eq below)⟩
  rw [compared, unpack_zero]
  generalize x.toModel.unpack = u at *
  -- The sign decides, since the size is not zero.
  cases parts with
  | zero s =>
    cases s with
    | positive => exact ⟨(nomatch ·), fun below => absurd below (lt_irrefl 0)⟩
    | negative => exact ⟨(nomatch ·), fun below => absurd below (lt_irrefl 0)⟩
  | @finite s m e pos usual low =>
    have size : (0 : ℚ) < m * 2 ^ e := by positivity
    cases s with
    | positive => exact ⟨(nomatch ·), fun below => absurd below size.not_gt⟩
    | negative =>
      refine ⟨fun _ => ?_, fun _ => rfl⟩
      show ((-(m : ℤ) : ℤ) : ℚ) * 2 ^ e < 0
      rw [Int.cast_neg, Int.cast_natCast, neg_mul]
      exact neg_neg_of_pos size

/-- A double that is not worth zero does not equal it. -/
theorem beq_zero_of_worth (worth : Worth x q) (some : q ≠ 0) : (x == 0.0) = false := by
  rw [Bool.eq_false_iff]
  intro equal
  -- Equal to zero means worth zero, and a double is worth one number only.
  have zero : Worth x 0 := ⟨0, leastExponent, exact_of_beq_zero equal, by simp⟩
  exact some (worth.unique zero)

end Spreadsheet.Double

namespace Spreadsheet.Number

variable {x y : Float} {a b : Number} {c : Power} {re im : Float} {q : ℚ}

/-- A double stands for no whole number exactly if it is not worth one. -/
theorem wholeOfFloat?_eq_none_iff (worth : Double.Worth y q) :
    wholeOfFloat? y = none ↔ ∀ n : ℤ, q ≠ n := by
  constructor
  · rintro none n rfl
    -- A whole number is found where the double is worth one.
    rw [wholeOfFloat?_of_worth worth] at none
    cases none
  · intro broken
    cases stands : wholeOfFloat? y with
    | none => rfl
    | some n => exact absurd (worth.unique (worth_of_wholeOfFloat? stands)) (broken n)

/-- A root of a negative number: both are finite, the base is below zero and the exponent not whole. -/
def IsRoot (x y : Float) : Prop :=
  -- In terms of what the doubles are worth.
  ∃ p q : ℚ, Double.Worth x p ∧ p < 0 ∧ Double.Worth y q ∧ ∀ n : ℤ, q ≠ n

/-- A root of a negative number is taken by its angle. -/
theorem floatPower_of_root (root : IsRoot x y) : floatPower x y = complexPower x y := by
  obtain ⟨p, q, base, negative, exponent, broken⟩ := root
  -- Zero is a whole number, so the exponent is not worth it.
  have exponentSome : q ≠ 0 := by simpa using broken 0
  -- None of the special cases applies.
  rw [floatPower, Double.beq_zero_of_worth exponent exponentSome, Double.isNaN_of_worth base,
    Double.isNaN_of_worth exponent, Double.isInf_of_worth exponent, Double.isInf_of_worth base,
    Double.beq_zero_of_worth base negative.ne]
  rw [if_neg Bool.false_ne_true, if_neg Bool.false_ne_true, if_neg Bool.false_ne_true,
    if_neg Bool.false_ne_true, if_neg Bool.false_ne_true, if_neg Bool.false_ne_true]
  have below : decide (x < 0.0) = true :=
    decide_eq_true ((Double.lt_zero_iff_of_worth base).mpr negative)
  have none := (wholeOfFloat?_eq_none_iff exponent).mpr broken
  rw [finitePower, below, none]
  rfl

/-- Only roots of negative numbers are complex. -/
theorem root_of_floatPower (done : floatPower x y = .ok (.complex re im)) : IsRoot x y := by
  -- Every special case gives a real number or fails, so none of them was taken.
  unfold floatPower at done
  split at done
  · cases done
  split at done
  · cases done
  split at done
  · cases done
  split at done
  · cases done
  split at done
  · cases done
  rename_i notZero baseNumber exponentNumber exponentFinite baseFinite
  split at done
  · split at done <;> cases done
  · obtain ⟨p, base⟩ :=
      Double.exists_worth (Bool.eq_false_iff.mpr baseNumber) (Bool.eq_false_iff.mpr baseFinite)
    obtain ⟨q, exponent⟩ :=
      Double.exists_worth (Bool.eq_false_iff.mpr exponentNumber) (Bool.eq_false_iff.mpr exponentFinite)
    -- The power is real, or the base is negative and the exponent stands for no whole number.
    rcases (finitePower_delivers x y).of_ok done with ⟨n, real⟩ | ⟨negative, none⟩
    · cases real
    · exact ⟨p, q, base, (Double.lt_zero_iff_of_worth base).mp negative, exponent,
        (wholeOfFloat?_eq_none_iff exponent).mp none⟩

/-- A power is real or complex; it is complex for roots of negative numbers. -/
theorem floatPower_complex_iff (done : floatPower x y = .ok c) :
    (∃ re im, c = .complex re im) ↔ IsRoot x y := by
  constructor
  · rintro ⟨re, im, rfl⟩
    exact root_of_floatPower done
  · intro root
    -- By its angle the power is complex, or it is too large and fails.
    rw [floatPower_of_root root, complexPower] at done
    split at done
    · cases done
    · exact ⟨_, _, (Except.ok.inj done).symm⟩

/-- A power of a double is one of doubles. -/
theorem power_float (x : Float) (b : Number) :
    (float x).power b = b.toFloat >>= fun y => floatPower x y := rfl

end Spreadsheet.Number
