import Spreadsheet.Function.Registry
import Spreadsheet.Proofs.Operator.Apply

/-!
How the functions that every evaluator knows fail: for reasons that lie in their arguments. Arguments
that fit a function are an operation on the wrong kinds of values only if a moment with an offset is
among them.
-/

namespace Spreadsheet

variable {zoned : Prop}

namespace Argument

/-- Reading a number from an argument fails with faults alone. -/
theorem number?_computes {v : Value} (told : v.Told zoned) :
    Computes zoned Fault.Proper (number? v) :=
  (Value.toNumber?_computes _ told).proper

/-- Reading a finite number from an argument fails with faults alone. -/
theorem finite?_computes {v : Value} (told : v.Told zoned) :
    Computes zoned Fault.Proper (finite? v) :=
  (number?_computes told).bind fun _ => .done _

/-- Reading the numbers in some arguments fails with faults alone. -/
theorem numbers_computes {vs : List Value} (told : ∀ v ∈ vs, v.Told zoned) :
    Computes zoned Fault.Proper (numbers vs) := by
  -- The lists among the arguments are laid out first.
  rw [numbers]
  replace told := Value.told_leaves told
  generalize Value.leavesOfAll vs = leaves at told
  -- The induction is along the values that are left.
  induction leaves with
  | nil => trivial
  | cons v rest ih =>
    obtain ⟨first, others⟩ := List.forall_mem_cons.mp told
    exact (Value.toNumber?_computes _ first).proper.bind fun _ => (ih others).bind fun _ => .done _

/-- An argument that gives no text fails for what it is. -/
theorem text_computes (v : Value) : Computes zoned Fault.Proper (text v) := by
  -- A list of several values gives the empty text.
  unfold text
  split
  · exact (Value.toText_computes _).proper
  · trivial
  · exact (Value.toText_computes _).proper

/-- Reading a count from an argument fails with faults alone. -/
theorem size_computes (default : Int) {v : Value} (told : v.Told zoned) :
    Computes zoned Fault.Proper (size default v) := by
  -- Without a number the default counts.
  refine (finite?_computes told).bind fun n => ?_
  cases n with
  | none => trivial
  | some n => exact Computes.arithmetic n.truncate_proper fun _ => .done _

end Argument

open Argument

section Lists

variable {vs : List Value} (told : ∀ v ∈ vs, v.Told zoned)

include told

namespace Aggregate

/-- A sum fails with faults alone. -/
theorem sum_computes : Computes zoned Fault.Proper (sum vs) :=
  (numbers_computes told).bind fun ns => .arithmetic (Number.sum_ranged ns).proper fun _ => .done _

/-- A mean fails with faults alone. -/
theorem average_computes : Computes zoned Fault.Proper (average vs) := by
  -- Without numbers there is nothing to divide.
  refine (numbers_computes told).bind fun ns => ?_
  cases ns with
  | nil => trivial
  | cons n rest =>
    refine .arithmetic (Number.sum_ranged _).proper fun total => ?_
    exact .arithmetic (Number.div_proper _ _) fun _ => .done _

/-- The choice of a number fails with faults alone. -/
theorem survivor_computes (better : Number → Number → Number) :
    Computes zoned Fault.Proper (survivor better vs) := by
  -- Comparisons do not fail.
  refine (numbers_computes told).bind fun ns => ?_
  cases ns <;> trivial

/-- A count of numbers fails with faults alone. -/
theorem count_computes : Computes zoned Fault.Proper (count vs) :=
  (numbers_computes told).bind fun _ => .done _

end Aggregate

namespace Statistics

/-- A statistic fails with faults alone. -/
theorem ofNumbers_computes (enough : Nat) {statistic : List Number → Except Fault Number}
    (each : ∀ ns, FailsOnly Fault.Proper (statistic ns)) :
    Computes zoned Fault.Proper (ofNumbers enough statistic vs) := by
  -- Too few numbers are no failure.
  refine (numbers_computes told).bind fun ns => ?_
  split
  · trivial
  · exact .arithmetic (each ns) fun _ => .done _

/-- The mode fails with faults alone. -/
theorem mode_computes : Computes zoned Fault.Proper (mode vs) := by
  -- No mode is no failure.
  refine (numbers_computes told).bind fun ns => ?_
  dsimp only
  split <;> trivial

end Statistics

end Lists

namespace Rounding

/-- A power of ten fails for range alone. -/
theorem powerOfTen_ranged (exponent : Int) : FailsOnly Fault.Ranged (powerOfTen exponent) := by
  -- The power itself is whole or a double; only a long exponent is out of range.
  rw [powerOfTen]
  split
  · trivial
  · exact (Number.floatOfInt_ranged exponent).bind fun _ _ => trivial

/-- Rounding a number has a rule for all numbers. -/
theorem roundHalfAway_proper (n : Number) (decimals : Int) :
    FailsOnly Fault.Proper (roundHalfAway n decimals) :=
  -- Each step of rounding is arithmetic of its own.
  (powerOfTen_ranged decimals).proper.bind fun factor _ =>
    (Number.mul_ranged _ factor).proper.bind fun scaled _ =>
      (Number.add_ranged scaled _).proper.bind fun raised _ =>
        raised.floor_proper.bind fun _ _ => (Number.div_proper _ factor).bind fun size _ =>
          (size.mul_ranged _).proper

/-- Rounding fails with faults alone. -/
theorem round_computes {value decimals : Value} (told : value.Told zoned)
    (told' : decimals.Told zoned) : Computes zoned Fault.Proper (round value decimals) := by
  -- Arguments that are no finite numbers give nothing.
  refine (finite?_computes told).bind fun n => (finite?_computes told').bind fun d => ?_
  split
  · rename_i n d
    refine .arithmetic d.truncate_proper fun places => ?_
    exact .arithmetic (roundHalfAway_proper n places) fun _ => .done _
  · trivial

/-- A function of one finite number fails with faults alone. -/
theorem onFinite_computes {f : Number → Except Fault Int}
    (each : ∀ n, FailsOnly Fault.Proper (f n)) {value : Value} (told : value.Told zoned) :
    Computes zoned Fault.Proper (onFinite f value) := by
  -- Other arguments give nothing.
  refine (finite?_computes told).bind fun n => ?_
  cases n with
  | none => trivial
  | some n => exact .arithmetic (each n) fun _ => .done _

/-- The absolute value fails with faults alone. -/
theorem absolute_computes {value : Value} (told : value.Told zoned) :
    Computes zoned Fault.Proper (absolute value) := by
  -- Only reading the number can fail.
  refine (number?_computes told).bind fun n => ?_
  cases n <;> trivial

/-- The square root fails with faults alone. -/
theorem squareRoot_computes {value : Value} (told : value.Told zoned) :
    Computes zoned Fault.Proper (squareRoot value) := by
  -- Below zero there is nothing.
  refine (number?_computes told).bind fun n => ?_
  cases n with
  | none => trivial
  | some n =>
    dsimp only
    split
    · trivial
    · exact .arithmetic n.toFloat_ranged.proper fun _ => .done _

/-- A power fails with faults alone. -/
theorem power_computes {base exponent : Value} (told : base.Told zoned)
    (told' : exponent.Told zoned) : Computes zoned Fault.Proper (power base exponent) := by
  -- Powers out of range give nothing.
  refine (number?_computes told).bind fun b => (number?_computes told').bind fun e => ?_
  split
  · split <;> trivial
  · trivial

end Rounding

namespace Textual

/-- Joining texts fails for a value without a text. -/
theorem concatenate_computes (vs : List Value) : Computes zoned Fault.Proper (concatenate vs) := by
  -- The values are read one after the other.
  have each (v : Value) : Computes zoned Fault.Proper v.toText := v.toText_computes.proper
  exact (Delivers.mapM each (Value.leavesOfAll vs)).bind fun _ _ => Computes.done _

/-- The first characters of a text fail for an argument without a text. -/
theorem left_computes (text : Value) {count : Value} (told : count.Told zoned) :
    Computes zoned Fault.Proper (left text count) :=
  (size_computes 1 told).bind fun _ => (text_computes text).bind fun _ => .done _

/-- The last characters of a text fail for an argument without a text. -/
theorem right_computes (text : Value) {count : Value} (told : count.Told zoned) :
    Computes zoned Fault.Proper (right text count) :=
  (text_computes text).bind fun _ => (size_computes 1 told).bind fun _ => .done _

/-- A part of a text fails for an argument without a text. -/
theorem middle_computes (text : Value) {start count : Value} (told : start.Told zoned)
    (told' : count.Told zoned) : Computes zoned Fault.Proper (middle text start count) :=
  (text_computes text).bind fun _ => (size_computes 1 told).bind fun _ =>
    (size_computes 0 told').bind fun _ => .done _

end Textual

namespace Game

/-- The damage of an attack fails with faults of arithmetic alone. -/
theorem damage_computes {attack defense : Value} (told : attack.Told zoned)
    (told' : defense.Told zoned) :
    Computes zoned Fault.Proper (damage attack defense) := by
  -- A defense of minus a hundred gives an invalid value.
  refine (finite?_computes told).bind fun a => (finite?_computes told').bind fun d => ?_
  split
  · rename_i a d
    -- The share of the attack is computed first, then its whole part.
    split
    · trivial
    · refine .arithmetic (Number.add_ranged _ d).proper fun whole => ?_
      refine .arithmetic (Number.div_proper _ whole) fun share => ?_
      refine .arithmetic (a.mul_ranged share).proper fun left => ?_
      exact .arithmetic left.floor_proper fun _ => .done _
  · trivial

/-- A number times a power has a rule for all of them. -/
theorem scaleBy_proper (base : Number) (power : Number.Power) :
    FailsOnly Fault.Proper (scaleBy base power) := by
  -- A complex power is stretched by a double.
  cases power with
  | real n => exact (base.mul_ranged n).proper.bind fun _ _ => trivial
  | complex re im => exact base.toFloat_ranged.proper.bind fun _ _ => trivial

/-- Every curve has a rule for all numbers. -/
theorem grow_proper (curve : Curve) (level base growth : Number) :
    FailsOnly Fault.Proper (grow curve level base growth) := by
  -- One case for each curve.
  cases curve with
  | linear =>
    refine (level.sub_ranged _).proper.bind fun steps _ => ?_
    refine (steps.mul_ranged growth).proper.bind fun amount _ => ?_
    exact (base.add_ranged amount).proper.bind fun _ _ => trivial
  | exponential =>
    refine (growth.div_proper _).bind fun rate _ => ?_
    refine (Number.add_ranged _ rate).proper.bind fun factor _ => ?_
    refine (level.sub_ranged _).proper.bind fun steps _ => ?_
    exact (factor.power_proper steps).bind fun power _ => scaleBy_proper base power
  | logarithmic =>
    refine level.log_proper.bind fun log _ => ?_
    refine (growth.mul_ranged _).proper.bind fun amount _ => ?_
    exact (base.add_ranged amount).proper.bind fun _ _ => trivial
  | quadratic =>
    refine (level.sub_ranged _).proper.bind fun steps _ => ?_
    refine (steps.square_delivers).bind fun power real => ?_
    obtain ⟨square, rfl⟩ := real
    refine (growth.mul_ranged square).proper.bind fun amount _ => ?_
    exact (base.add_ranged amount).proper.bind fun _ _ => trivial

/-- A stat at a level fails for a curve without a text. -/
theorem statScale_computes {level base growth : Value} (levels : level.Told zoned)
    (bases : base.Told zoned) (growths : growth.Told zoned) (curve : Value) :
    Computes zoned Fault.Proper (statScale level base growth curve) := by
  -- Names of no curve and levels below one give an invalid value.
  refine (number?_computes levels).bind fun l => (number?_computes bases).bind fun b => ?_
  refine (number?_computes growths).bind fun g => (text_computes curve).bind fun name => ?_
  split
  · split
    · trivial
    · dsimp only
      split
      · exact Computes.lift (grow_proper _ _ _ _)
      · trivial
  · trivial

/-- The chance of a drop fails with faults of arithmetic alone. -/
theorem dropRate_computes {base luck enemy player : Value} (bases : base.Told zoned)
    (lucks : luck.Told zoned) (enemies : enemy.Told zoned) (players : player.Told zoned) :
    Computes zoned Fault.Proper (dropRate base luck enemy player) := by
  -- All four numbers are read first.
  refine (number?_computes bases).bind fun b => (number?_computes lucks).bind fun l => ?_
  refine (number?_computes enemies).bind fun e => (number?_computes players).bind fun p => ?_
  split
  · trivial
  · rename_i b
    refine .arithmetic ?_ fun lucky => .arithmetic ?_ fun _ => .done _
    · -- Luck that is not above zero changes nothing.
      split
      · exact (Number.mul_ranged _ _).proper.bind fun share _ => (b.add_ranged share).proper
      · trivial
    · -- So do levels that are not above the enemy's.
      split
      · rename_i enemy player
        split
        · refine (player.sub_ranged enemy).proper.bind fun levels _ => ?_
          exact (levels.mul_ranged _).proper.bind fun share _ => (lucky.add_ranged share).proper
        · trivial
      · trivial

/-- The experience of a level fails with faults of arithmetic alone. -/
theorem experience_computes {level base factor exponent : Value} (levels : level.Told zoned)
    (bases : base.Told zoned) (factors : factor.Told zoned) (exponents : exponent.Told zoned) :
    Computes zoned Fault.Proper (experience level base factor exponent) := by
  -- All four numbers are read first.
  refine (finite?_computes levels).bind fun l => (finite?_computes bases).bind fun b => ?_
  refine (finite?_computes factors).bind fun f => (finite?_computes exponents).bind fun e => ?_
  split
  · trivial
  · rename_i l
    split
    · trivial
    · rename_i large
      refine .arithmetic (Number.mul_ranged _ _).proper fun scaled => ?_
      -- Levels below one are refused before, so the power is real.
      have power := Number.power_of_large (Bool.of_not_eq_true large) (e.getD (.float 1.5))
      refine (Computes.lift power).bind fun power real => ?_
      obtain ⟨growth, rfl⟩ := real
      refine Computes.arithmetic (scaled.mul_ranged growth).proper fun amount => ?_
      refine .arithmetic (Rounding.roundHalfAway_proper amount 0) fun rounded => ?_
      exact .arithmetic rounded.truncate_proper fun _ => .done _

/-- The rate of a tier has a rule for all numbers. -/
theorem tierRate_proper (tier : Number) : FailsOnly Fault.Proper (tierRate tier) :=
  tier.truncate_proper.bind fun _ _ => trivial

/-- The rate before the threshold has a rule for all numbers. -/
theorem softRate_proper (base pity threshold start : Number) :
    FailsOnly Fault.Proper (softRate base pity threshold start) :=
  (pity.sub_ranged start).proper.bind fun passed _ =>
    (threshold.sub_ranged start).proper.bind fun span _ => (passed.div_proper span).bind
      fun progress _ => (progress.mul_ranged _).proper.bind fun extra _ =>
        (Number.add_ranged _ extra).proper.bind fun factor _ =>
          (base.mul_ranged factor).proper.bind fun _ _ => trivial

/-- The rate of a draw fails with faults of arithmetic alone. -/
theorem drawRate_computes {tier pity base threshold : Value} (tiers : tier.Told zoned)
    (pities : pity.Told zoned) (bases : base.Told zoned) (thresholds : threshold.Told zoned) :
    Computes zoned Fault.Proper (drawRate tier pity base threshold) := by
  -- All four numbers are read first.
  refine (number?_computes tiers).bind fun t => (number?_computes pities).bind fun p => ?_
  refine (number?_computes bases).bind fun b => (number?_computes thresholds).bind fun h => ?_
  split
  · trivial
  · rename_i t
    split
    · trivial
    · refine .arithmetic ?_ fun rate => ?_
      · cases b with
        | some b => trivial
        | none => exact tierRate_proper t
      · split
        · trivial
        · refine .arithmetic (Number.mul_ranged _ _).proper fun quarter => ?_
          refine .arithmetic quarter.floor_proper fun start => ?_
          dsimp only
          split
          · exact Computes.lift (softRate_proper _ _ _ _)
          · trivial

/-- A comparison with two bounds fails with faults of arithmetic alone. -/
theorem isBetween_computes {value bounds : Value} (told : value.Told zoned)
    (told' : bounds.Told zoned) :
    Computes zoned Fault.Proper (isBetween value bounds) := by
  -- Anything but two bounds gives an invalid value.
  refine (number?_computes told).bind fun n => ?_
  split
  · rename_i bound
    have each : ∀ leaf ∈ bounds.leaves, leaf.Told zoned := fun _ member inside =>
      told' (.of_leaf bounds member inside)
    rw [bound] at each
    refine (number?_computes (each _ (by simp))).bind fun low => ?_
    refine (number?_computes (each _ (by simp))).bind fun high => ?_
    split <;> trivial
  · trivial

end Game

namespace Signature

variable {P : Value → Prop} {vs : List Value} {p q : String} {required : List String}
  {optional : Nat} (each : ∀ v ∈ vs, P v)

include each

/-- Arguments that fit begin with one for the first parameter that needs one. -/
theorem fits_required (fits : problem? ⟨p :: required, optional, false⟩ vs.length = none) :
    ∃ v rest, vs = v :: rest ∧ P v ∧ (∀ w ∈ rest, P w) ∧
      problem? ⟨required, optional, false⟩ rest.length = none := by
  cases vs with
  | nil => cases fits
  | cons v rest =>
    obtain ⟨first, others⟩ := List.forall_mem_cons.mp each
    -- Fitting counts the arguments, and both sides have one fewer now.
    refine ⟨v, rest, rfl, first, others, ?_⟩
    simpa [problem?, Nat.add_right_comm] using fits

/-- Arguments that fit begin with one for an optional parameter unless there are none. -/
theorem fits_optional (fits : problem? ⟨[], optional + 1, false⟩ vs.length = none) :
    vs = [] ∨ ∃ v rest, vs = v :: rest ∧ P v ∧ (∀ w ∈ rest, P w) ∧
      problem? ⟨[], optional, false⟩ rest.length = none := by
  cases vs with
  | nil => exact .inl rfl
  | cons v rest =>
    obtain ⟨first, others⟩ := List.forall_mem_cons.mp each
    exact .inr ⟨v, rest, rfl, first, others, by simpa [problem?] using fits⟩

omit each in
/-- Without parameters no arguments fit. -/
theorem fits_none (fits : problem? ⟨[], 0, false⟩ vs.length = none) : vs = [] := by
  -- An argument would be one too many.
  simpa [problem?] using fits

/-- One parameter is for one argument. -/
theorem fits_one (fits : problem? ⟨[p], 0, false⟩ vs.length = none) : ∃ v, vs = [v] ∧ P v := by
  obtain ⟨v, rest, rfl, first, -, others⟩ := fits_required each fits
  exact ⟨v, by rw [fits_none others], first⟩

/-- Two parameters are for two arguments. -/
theorem fits_two (fits : problem? ⟨[p, q], 0, false⟩ vs.length = none) :
    ∃ v w, vs = [v, w] ∧ P v ∧ P w := by
  obtain ⟨v, rest, rfl, first, each, others⟩ := fits_required each fits
  obtain ⟨w, rfl, second⟩ := fits_one each others
  exact ⟨v, w, rfl, first, second⟩

/-- One optional parameter is for one argument or none. -/
theorem fits_upToOne (fits : problem? ⟨[], 1, false⟩ vs.length = none) :
    vs = [] ∨ ∃ v, vs = [v] ∧ P v := by
  rcases fits_optional each fits with none | ⟨v, rest, rfl, first, -, others⟩
  · exact .inl none
  · exact .inr ⟨v, by rw [fits_none others], first⟩

/-- Two optional parameters are for two arguments or fewer. -/
theorem fits_upToTwo (fits : problem? ⟨[], 2, false⟩ vs.length = none) :
    vs = [] ∨ (∃ v, vs = [v] ∧ P v) ∨ ∃ v w, vs = [v, w] ∧ P v ∧ P w := by
  rcases fits_optional each fits with none | ⟨v, rest, rfl, first, each, others⟩
  · exact .inl none
  · rcases fits_upToOne each others with rfl | ⟨w, rfl, second⟩
    · exact .inr (.inl ⟨v, rfl, first⟩)
    · exact .inr (.inr ⟨v, w, rfl, first, second⟩)

/-- Three optional parameters are for three arguments or fewer. -/
theorem fits_upToThree (fits : problem? ⟨[], 3, false⟩ vs.length = none) :
    vs = [] ∨ (∃ v, vs = [v] ∧ P v) ∨ (∃ v w, vs = [v, w] ∧ P v ∧ P w) ∨
      ∃ v w x, vs = [v, w, x] ∧ P v ∧ P w ∧ P x := by
  rcases fits_optional each fits with none | ⟨v, rest, rfl, first, each, others⟩
  · exact .inl none
  · rcases fits_upToTwo each others with rfl | ⟨w, rfl, second⟩ | ⟨w, x, rfl, second, third⟩
    · exact .inr (.inl ⟨v, rfl, first⟩)
    · exact .inr (.inr (.inl ⟨v, w, rfl, first, second⟩))
    · exact .inr (.inr (.inr ⟨v, w, x, rfl, first, second, third⟩))

omit each in
/-- With three optional parameters, blanks stand in for the arguments that are left out. -/
theorem fits_padded {f : Value → Value → Value → Except Failure Value}
    {Q : Except Failure Value → Prop} (blank : P .blank)
    (holds : ∀ w x y, P w → P x → P y → Q (f w x y)) {more : List Value} :
    (∀ v ∈ more, P v) → problem? ⟨[], 3, false⟩ more.length = none →
      Q (match more with
        | [] => f .blank .blank .blank
        | [w] => f w .blank .blank
        | [w, x] => f w x .blank
        | [w, x, y] => f w x y
        | _ => .error (.fault .mismatch)) := by
  intro told fits
  -- One case for each number of arguments.
  rcases fits_upToThree told fits with
    rfl | ⟨w, rfl, first⟩ | ⟨w, x, rfl, first, second⟩ | ⟨w, x, y, rfl, first, second, third⟩
  · exact holds _ _ _ blank blank blank
  · exact holds _ _ _ first blank blank
  · exact holds _ _ _ first second blank
  · exact holds _ _ _ first second third

end Signature

open Signature

/-- A built-in function fails for reasons that lie in its arguments, if their number fits. -/
theorem Builtin.apply_computes (b : Builtin) {vs : List Value} (told : ∀ v ∈ vs, v.Told zoned)
    (fits : b.signature.problem? vs.length = none) : Computes zoned Fault.Proper (b.apply vs) := by
  -- An argument that is left out is a value without a moment.
  have blank : Value.blank.Told zoned := nofun
  have number (n : Int) : (Value.whole n).Told zoned := nofun
  -- One case for each function; arguments that fit meet an equation of the table.
  cases b with
  | sum | statTotal => exact Aggregate.sum_computes told
  | average => exact Aggregate.average_computes told
  | min | max => exact Aggregate.survivor_computes told _
  | count => exact Aggregate.count_computes told
  | counta | and | or => trivial
  | median =>
    refine Statistics.ofNumbers_computes told _ fun ns => ?_
    exact (Number.median_proper ns).bind fun _ _ => trivial
  | mode => exact Statistics.mode_computes told
  | stdev | stdevp =>
    refine Statistics.ofNumbers_computes told _ fun ns => ?_
    exact (Number.deviation_proper _ ns).bind fun _ _ => trivial
  | var | varp =>
    refine Statistics.ofNumbers_computes told _ fun ns => ?_
    exact (Number.variance_proper _ ns).bind fun _ _ => trivial
  | concatenate => exact Textual.concatenate_computes vs
  | ceiling =>
    obtain ⟨v, rfl, first⟩ := fits_one told fits
    exact Rounding.onFinite_computes Number.ceil_proper first
  | floor =>
    obtain ⟨v, rfl, first⟩ := fits_one told fits
    exact Rounding.onFinite_computes Number.floor_proper first
  | abs =>
    obtain ⟨v, rfl, first⟩ := fits_one told fits
    exact Rounding.absolute_computes first
  | sqrt =>
    obtain ⟨v, rfl, first⟩ := fits_one told fits
    exact Rounding.squareRoot_computes first
  | not =>
    obtain ⟨v, rfl, -⟩ := fits_one told fits
    trivial
  | upper | lower | len | rarityBonus =>
    obtain ⟨v, rfl, -⟩ := fits_one told fits
    exact (text_computes v).bind fun _ => .done _
  | power =>
    obtain ⟨v, w, rfl, first, second⟩ := fits_two told fits
    exact Rounding.power_computes first second
  | damageCalc =>
    obtain ⟨v, w, rfl, first, second⟩ := fits_two told fits
    exact Game.damage_computes first second
  | between =>
    obtain ⟨v, w, rfl, first, second⟩ := fits_two told fits
    exact Game.isBetween_computes first second
  | round =>
    obtain ⟨v, more, rfl, first, told, few⟩ := fits_required told fits
    rcases fits_upToOne told few with rfl | ⟨w, rfl, second⟩
    · exact Rounding.round_computes first (number 0)
    · exact Rounding.round_computes first second
  | left =>
    obtain ⟨v, more, rfl, -, told, few⟩ := fits_required told fits
    rcases fits_upToOne told few with rfl | ⟨w, rfl, second⟩
    · exact Textual.left_computes v (number 1)
    · exact Textual.left_computes v second
  | right =>
    obtain ⟨v, more, rfl, -, told, few⟩ := fits_required told fits
    rcases fits_upToOne told few with rfl | ⟨w, rfl, second⟩
    · exact Textual.right_computes v (number 1)
    · exact Textual.right_computes v second
  | mid =>
    obtain ⟨v, rest, rfl, -, told, others⟩ := fits_required told fits
    obtain ⟨w, more, rfl, second, told, few⟩ := fits_required told others
    rcases fits_upToOne told few with rfl | ⟨x, rfl, third⟩
    · exact Textual.middle_computes v second (number 0)
    · exact Textual.middle_computes v second third
  | ifElse =>
    obtain ⟨v, more, rfl, -, told, few⟩ := fits_required told fits
    rcases fits_upToTwo told few with rfl | ⟨w, rfl, -⟩ | ⟨w, x, rfl, -, -⟩ <;> trivial
  | statScale =>
    obtain ⟨v, rest, rfl, first, told, others⟩ := fits_required told fits
    obtain ⟨w, more, rfl, second, told, few⟩ := fits_required told others
    rcases fits_upToTwo told few with rfl | ⟨x, rfl, third⟩ | ⟨x, y, rfl, third, -⟩
    · exact Game.statScale_computes first second blank _
    · exact Game.statScale_computes first second third _
    · exact Game.statScale_computes first second third _
  | dropRate =>
    obtain ⟨v, more, rfl, first, told, few⟩ := fits_required told fits
    exact fits_padded blank (fun _ _ _ => Game.dropRate_computes first) told few
  | expCurve =>
    obtain ⟨v, more, rfl, first, told, few⟩ := fits_required told fits
    exact fits_padded blank (fun _ _ _ => Game.experience_computes first) told few
  | gachaRate =>
    obtain ⟨v, more, rfl, first, told, few⟩ := fits_required told fits
    exact fits_padded blank (fun _ _ _ => Game.drawRate_computes first) told few

/--
A call reports every fault of arithmetic in its function as one of formulas, so only a moment with an
offset is left as a fault.
-/
theorem SheetFunction.call_computes {f : SheetFunction} {vs : List Value}
    (computes : Computes zoned Fault.Proper (f.compute vs)) (name : String) :
    Computes zoned (fun _ => False) (f.call name vs) := by
  rw [SheetFunction.call]
  -- A fault of arithmetic is reported, a moment is passed on.
  split
  · rename_i fault failed
    rcases computes.of_error failed with proper | ⟨rfl, met⟩
    · rw [if_neg proper]
      exact Computes.refuse (List.mem_of_elem_eq_true rfl)
    · exact .inr ⟨rfl, met⟩
  · rename_i other
    -- What is no fault passes through.
    exact computes.faultless other

namespace Registry

/-- Functions without side effects fail for reasons that lie in their arguments. -/
structure Plain (registry : Registry) : Prop where
  /-- No function drops what was recorded. -/
  keeps : ∀ {name f}, registry.find? name = some f → f.dropsDependencies = false
  /-- Functions fail for reasons that lie in their arguments, if their number fits. -/
  computes : ∀ {name f}, registry.find? name = some f → ∀ {vs : List Value},
    f.problem? vs.length = none → Computes (∃ v ∈ vs, v.Zoned) Fault.Proper (f.compute vs)

/-- What is found among the built-in functions is one of them. -/
theorem exists_of_find?_builtin {name : String} {f : SheetFunction}
    (found : builtin.find? name = some f) : ∃ b, f = SheetFunction.ofBuiltin b := by
  -- The registry is a table of the built-in functions.
  rw [find?] at found
  obtain ⟨b, _, rfl⟩ := Option.map_eq_some_iff.mp found
  exact ⟨b, rfl⟩

/-- The built-in functions have no side effects. -/
theorem plain_builtin : Plain .builtin := by
  refine ⟨fun found => ?_, fun found vs fits => ?_⟩
  · obtain ⟨b, rfl⟩ := exists_of_find?_builtin found
    rfl
  · obtain ⟨b, rfl⟩ := exists_of_find?_builtin found
    exact b.apply_computes (fun v member inside => ⟨v, member, inside⟩) fits

end Registry
end Spreadsheet
