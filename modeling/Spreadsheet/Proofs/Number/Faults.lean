import Spreadsheet.Number.Literal
import Spreadsheet.Number.Summary
import Spreadsheet.Proofs.Number.Double
import Spreadsheet.Proofs.Outcome

/-!
The faults of arithmetic: every operation on numbers tells what it can fail with, and a power tells
where it can be complex.
-/

namespace Spreadsheet

namespace Literal

/-- A text that is no whole number, or too long, fails for that. -/
theorem whole_converts (s : String) : FailsOnly Fault.Conversion (whole s) := by
  -- The length is looked at before what follows the digits.
  unfold whole
  dsimp only
  split
  · exact .notWhole s
  · exact .notWhole s
  · split
    · exact .tooLongToRead _
    · split
      · exact .notWhole s
      · trivial

/-- A text that is no double fails for that. -/
theorem float_converts (s : String) : FailsOnly Fault.Conversion (float s) := by
  -- Marks, names and digits are tried before the text is given up.
  unfold float
  dsimp only
  split
  · trivial
  · exact .notFloat s

/-- A number behind a separator fails for not being a double. -/
theorem leading?_converts (s : String) : FailsOnly Fault.Conversion (leading? s) := by
  -- Without a number in front there is nothing to fail for.
  unfold leading?
  dsimp only
  split
  · trivial
  · split
    · exact .notFloat _
    · trivial

end Literal

namespace Number

/-- A whole number can be out of range of the doubles. -/
theorem floatOfInt_ranged (n : Int) : FailsOnly Fault.Ranged (floatOfInt n) := by
  -- Only rounding to infinity fails.
  rw [floatOfInt]
  split
  · exact .inr rfl
  · trivial

/-- Becoming a double fails for range alone. -/
theorem toFloat_ranged (a : Number) : FailsOnly Fault.Ranged a.toFloat := by
  -- The doubles are there already.
  cases a with
  | whole n => exact floatOfInt_ranged n
  | _ => trivial

/-- An operation that rounds fails for range alone. -/
theorem combine_ranged (onWhole : Int → Int → Int) (onFloat : Float → Float → Float)
    (a b : Number) : FailsOnly Fault.Ranged (combine onWhole onFloat a b) := by
  -- Two whole numbers are not rounded.
  unfold combine
  split
  · trivial
  · exact (toFloat_ranged _).bind fun _ _ => (toFloat_ranged _).bind fun _ _ => trivial

/-- A sum fails for range alone. -/
theorem add_ranged (a b : Number) : FailsOnly Fault.Ranged (a.add b) := combine_ranged _ _ a b

/-- A difference fails for range alone. -/
theorem sub_ranged (a b : Number) : FailsOnly Fault.Ranged (a.sub b) := combine_ranged _ _ a b

/-- A product fails for range alone. -/
theorem mul_ranged (a b : Number) : FailsOnly Fault.Ranged (a.mul b) := combine_ranged _ _ a b

/-- A sum of many numbers fails for range alone. -/
theorem sum_ranged (ns : List Number) : FailsOnly Fault.Ranged (sum ns) := by
  rw [sum]
  -- The induction is along the numbers, for any sum of those before.
  generalize whole 0 = total
  induction ns generalizing total with
  | nil => trivial
  | cons n rest ih =>
    rw [List.foldlM_cons]
    exact (add_ranged total n).bind fun next _ => ih next

/-- A quotient fails for range, or for a divisor that is zero. -/
theorem div_delivers (a b : Number) :
    FailsOnly (fun f => f.Ranged ∨ f.family = .zeroDivision ∧ b.isZero = true) (a.div b) := by
  have double (c : Number) : Delivers (fun x => c.toFloat = .ok x)
      (fun f => f.Ranged ∨ f.family = .zeroDivision ∧ b.isZero = true) c.toFloat :=
    (toFloat_ranged c).itself.fails fun _ ranged => .inl ranged
  unfold div
  split
  · -- Whole operands are divided exactly.
    rw [quotient]
    split
    · rename_i nothing
      exact .inr ⟨rfl, by rw [nothing]; rfl⟩
    · dsimp only
      split
      · exact .inl (.inr rfl)
      · trivial
  · refine (double _).bind fun x _ => (double _).bind fun y done => ?_
    split
    · -- A double that equals zero stands for a number that is zero.
      rename_i zero
      exact .inr ⟨rfl, isZero_of_toFloat done zero⟩
    · trivial

/-- A quotient by a number that is not zero fails for range alone. -/
theorem div_ranged (a : Number) {b : Number} (some : b.isZero = false) :
    FailsOnly Fault.Ranged (a.div b) := by
  -- A zero divisor is the one reason besides range.
  refine (div_delivers a b).fails fun f => ?_
  rintro (ranged | ⟨-, zero⟩)
  · exact ranged
  · rw [some] at zero
    cases zero

/-- A quotient has a rule for all numbers. -/
theorem div_proper (a b : Number) : FailsOnly Fault.Proper (a.div b) := by
  refine (div_delivers a b).fails fun f => ?_
  rintro (ranged | ⟨zero, -⟩)
  · exact ranged.proper
  · exact Fault.proper_of_zeroDivision zero

/-- A number without a whole part has a rule for that. -/
theorem floor_proper (a : Number) : FailsOnly Fault.Proper a.floor := by
  -- Neither infinity nor a number that is not one has a whole part.
  rw [floor]
  split
  · trivial
  · exact Fault.Ranged.proper (.inr rfl)
  · exact nofun

/-- So it is seen from above. -/
theorem ceil_proper (a : Number) : FailsOnly Fault.Proper a.ceil :=
  (floor_proper _).bind fun _ _ => trivial

/-- Cutting off a fraction has a rule for all numbers. -/
theorem truncate_proper (a : Number) : FailsOnly Fault.Proper a.truncate := by
  -- It is rounding towards zero, from either side.
  rw [truncate]
  split
  · exact ceil_proper a
  · exact floor_proper a

/-- A logarithm has a rule for all numbers. -/
theorem log_proper (a : Number) : FailsOnly Fault.Proper a.log := by
  -- The domain can be left; a number that is too large is split into two logarithms.
  unfold log
  split
  · split
    · exact nofun
    · trivial
  · trivial
  · split
    · exact nofun
    · split
      · trivial
      · dsimp only
        split <;> trivial

namespace Power

/-- A power fails for range, or divides by zero. -/
def Failing (f : Fault) : Prop := f.Ranged ∨ f.family = .zeroDivision

/-- A power has a rule for all numbers. -/
theorem Failing.proper {f : Fault} (failing : Failing f) : f.Proper := by
  rcases failing with ranged | zero
  · exact ranged.proper
  · exact Fault.proper_of_zeroDivision zero

/-- A power of doubles is real, or a root of a negative number. -/
def RealOrRoot (base exponent : Float) (power : Power) : Prop :=
  (∃ n, power = .real n) ∨ base < 0.0 ∧ wholeOfFloat? exponent = none

end Power

open Power

/-- A power of finite doubles fails for range, and only a root of a negative number is complex. -/
theorem finitePower_delivers (base exponent : Float) :
    Delivers (RealOrRoot base exponent) Failing (finitePower base exponent) := by
  rw [finitePower]
  split
  · rename_i root
    rw [Bool.and_eq_true, decide_eq_true_iff, Option.isNone_iff_eq_none] at root
    rw [complexPower]
    split
    · exact .inl (.inr rfl)
    · exact .inr root
  · -- A power that is infinite by finite operands is out of range.
    extract_lets size power
    split
    · exact .inl (.inr rfl)
    · exact .inl ⟨_, rfl⟩

/-- A power of doubles fails for range or zero, and only a root of a negative number is complex. -/
theorem floatPower_delivers (base exponent : Float) :
    Delivers (RealOrRoot base exponent) Failing (floatPower base exponent) := by
  have real {n : Number} : RealOrRoot base exponent (.real n) := .inl ⟨n, rfl⟩
  -- The cases are those of the power, in its order.
  unfold floatPower
  split
  · exact real
  split
  · exact real
  split
  · exact real
  split
  · exact real
  split
  · exact real
  split
  · split
    · exact .inr rfl
    · exact real
  · exact finitePower_delivers base exponent

/-- A power fails for range or zero, and only a root of a negative number is complex. -/
theorem power_delivers (a b : Number) :
    Delivers (fun p => (∃ n, p = .real n) ∨ ∃ x y, a.toFloat = .ok x ∧ b.toFloat = .ok y ∧ x < 0.0 ∧
      wholeOfFloat? y = none) Failing (a.power b) := by
  have double (c : Number) : Delivers (fun x => c.toFloat = .ok x) Failing c.toFloat :=
    (toFloat_ranged c).itself.fails fun _ ranged => .inl ranged
  have doubles : Delivers (fun p => (∃ n, p = .real n) ∨ ∃ x y, a.toFloat = .ok x ∧
      b.toFloat = .ok y ∧ x < 0.0 ∧ wholeOfFloat? y = none) Failing
      (do floatPower (← a.toFloat) (← b.toFloat)) := by
    refine (double a).bind fun x base => (double b).bind fun y exponent => ?_
    refine (floatPower_delivers x y).mono (fun p => ?_) fun _ failing => failing
    rintro (real | ⟨negative, root⟩)
    · exact .inl real
    · exact .inr ⟨x, y, base, exponent, negative, root⟩
  -- Whole numbers have an exact power unless the exponent is negative.
  unfold power
  split
  · split
    · exact .inl ⟨_, rfl⟩
    · exact doubles
  · exact doubles

/-- A power has a rule for all numbers. -/
theorem power_proper (a b : Number) : FailsOnly Fault.Proper (a.power b) :=
  (power_delivers a b).mono (fun _ _ => trivial) fun _ failing => failing.proper

/-- A square is real. -/
theorem square_delivers (a : Number) :
    Delivers (fun p => ∃ n, p = .real n) Fault.Proper (a.power (whole 2)) := by
  have two : wholeOfFloat? (Double.nearest (decide ((2 : Int) < 0)) (Int.natAbs 2) 1) = some 2 := by
    decide +kernel
  -- Two is a whole double, so no square is a root.
  refine (power_delivers a (whole 2)).mono (fun p => ?_) fun f failing => failing.proper
  rintro (real | ⟨x, y, -, exponent, -, root⟩)
  · exact real
  · have near := eq_nearest_of_floatOfInt (show floatOfInt 2 = .ok y from exponent)
    rw [near, two] at root
    cases root

/-- A power of a number that is not below one is real. -/
theorem power_of_large {a : Number} (large : a.below (whole 1) = false) (b : Number) :
    Delivers (fun p => ∃ n, p = .real n) Fault.Proper (a.power b) := by
  -- A complex power has a negative base.
  refine (power_delivers a b).mono (fun p => ?_) fun f failing => failing.proper
  rintro (real | ⟨x, y, base, -, negative, -⟩)
  · exact real
  · -- A base that is negative as a double is below one.
    rw [below_one_of_toFloat base negative] at large
    cases large

/-- A mean has a rule for all numbers. -/
theorem exactMean_proper (ns : List Number) : FailsOnly Fault.Proper (exactMean ns) :=
  ((sum_ranged ns).fails fun _ ranged => ranged.proper).bind fun _ _ => div_proper _ _

/-- A variance has a rule for all numbers. -/
theorem variance_proper (spared : Nat) (ns : List Number) :
    FailsOnly Fault.Proper (variance spared ns) := by
  -- Numbers that fit in machine words are summed as doubles, which never fails.
  unfold variance
  split
  · trivial
  · refine (exactMean_proper ns).bind fun mean _ => ?_
    have square (n : Number) : FailsOnly Fault.Proper (do
        let distance ← n.sub mean
        distance.mul distance) :=
      (sub_ranged n mean).proper.bind fun distance _ => (mul_ranged distance distance).proper
    refine (Delivers.mapM square ns).bind fun squares _ => ?_
    exact (sum_ranged squares).proper.bind fun total _ => (div_proper _ _).bind fun mean _ =>
      (toFloat_ranged mean).proper

/-- A deviation has a rule for all numbers. -/
theorem deviation_proper (spared : Nat) (ns : List Number) :
    FailsOnly Fault.Proper (deviation spared ns) :=
  (variance_proper spared ns).bind fun _ _ => trivial

/-- A median has a rule for all numbers. -/
theorem median_proper (ns : List Number) : FailsOnly Fault.Proper (median ns) := by
  -- Only a number beyond machine words leads to an exact total that can be out of range.
  unfold median
  split
  · split <;> trivial
  · exact (sum_ranged _).proper.bind fun total _ => (toFloat_ranged total).proper.bind fun _ _ =>
      trivial

end Number
end Spreadsheet
