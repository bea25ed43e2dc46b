import Spreadsheet.Cell
import Spreadsheet.Proofs.Function.Builtin
import Spreadsheet.Proofs.Number.Power

/-!
What functions and operators give: nothing, truth values, numbers and texts, or one of the arguments
of a function. The only other results are complex numbers, to which a stat on the exponential curve
comes at roots of negative numbers.
-/

namespace Spreadsheet

namespace Value

/-- A value that functions compute. -/
def Computed : Value → Prop
  -- Dates and lists are only passed on.
  | blank | truth _ | number _ | text _ => True
  | _ => False

/-- A value that formulas compute with: scalars and dates with a time, in lists of any depth. -/
def Native (v : Value) : Prop :=
  -- Lists are looked into.
  ∀ leaf ∈ v.leaves, leaf.Computed ∨ ∃ m, leaf = .moment m

/-- A computed value, but a complex number if there is a root to take. -/
def ComplexIf (root : Prop) (v : Value) : Prop :=
  -- A root excludes every other result.
  (¬ root → v.Computed) ∧ (root → ∃ re im, v = .foreign (.complex re im))

variable {v : Value}

/-- Without a root a computed value is enough. -/
theorem Computed.complexIf {root : Prop} (computed : v.Computed) (none : ¬ root) : v.ComplexIf root :=
  ⟨fun _ => computed, fun root => absurd root none⟩

/-- Whether there is a root may be said in other words. -/
theorem ComplexIf.congr {root root' : Prop} (same : root ↔ root') (complex : v.ComplexIf root) :
    v.ComplexIf root' :=
  ⟨fun none => complex.1 (mt same.mp none), fun some => complex.2 (same.mpr some)⟩

/-- What functions compute is native. -/
theorem Computed.native (computed : v.Computed) : v.Native := by
  -- A scalar is its only leaf.
  cases v with
  | blank | truth | number | text =>
    intro leaf member
    rw [leaves, List.mem_singleton] at member
    · exact .inl (member ▸ computed)
    · intro items same
      cases same
  | moment | day | list | foreign => exact computed.elim

/-- What functions compute has no moments in it. -/
theorem Computed.told {zoned : Prop} (computed : v.Computed) : v.Told zoned := by
  -- Neither a moment nor a list is computed.
  rintro (offset | ⟨member, inside⟩) <;> exact computed.elim

/-- A complex number has none either. -/
theorem ComplexIf.told {zoned root : Prop} (complex : v.ComplexIf root) : v.Told zoned := by
  by_cases rooted : root
  · -- In either case the value is a scalar of some sort.
    obtain ⟨re, im, rfl⟩ := complex.2 rooted
    exact nofun
  · exact (complex.1 rooted).told

/-- Native values have a type. -/
theorem Native.exists_type (native : v.Native) : ∃ t, v.type = .ok t := by
  cases v with
  | foreign f =>
    -- A foreign value is its own leaf, and neither computed nor a moment.
    rcases native (foreign f) (by rw [leaves] <;> simp) with computed | ⟨m, same⟩
    · exact computed.elim
    · cases same
  | _ => exact ⟨_, rfl⟩

/-- Native values can be stored in a cell. -/
theorem Native.exists_cell (native : v.Native) : ∃ cell, Cell.ofValue v = .ok cell := by
  -- What has a type can be stored: for each type there is a kind of cell.
  obtain ⟨t, typed⟩ := native.exists_type
  cases v with
  | text s =>
    rw [Cell.ofValue]
    split <;> exact ⟨_, rfl⟩
  | foreign => cases typed
  | _ => exact ⟨_, rfl⟩

end Value

section Gives

variable {α ε : Type} {P : Value → Prop}

/-- Whatever a computation gives is as told. -/
abbrev Gives (P : Value → Prop) (x : Except ε Value) : Prop := Delivers P (fun _ => True) x

/-- A computation gives what its last step gives. -/
theorem Gives.after {x : Except ε α} {next : α → Except ε Value} (last : ∀ a, Gives P (next a)) :
    Gives P (x >>= next) := by
  -- Where the first step fails nothing is given.
  cases x with
  | ok a => exact last a
  | error e => trivial

/-- A computation gives what its last step gives for the value that it has. -/
theorem Gives.afterwards {x : Except ε α} {next : α → Except ε Value}
    (last : ∀ a, x = .ok a → Gives P (next a)) : Gives P (x >>= next) := by
  cases x with
  | ok a => exact last a rfl
  | error e => trivial

/-- What a computation gives, besides what it fails with. -/
theorem Gives.delivers {allowed : ε → Prop} {x : Except ε Value} (gives : Gives P x)
    (fails : FailsOnly allowed x) : Delivers P allowed x := by
  cases x with
  | ok v => exact gives
  | error e => exact fails

/-- A computed value has no moments in it. -/
theorem Gives.told {zoned : Prop} {x : Except ε Value} (gives : Gives Value.Computed x) :
    Gives (Value.Told zoned) x :=
  gives.mono (fun _ computed => computed.told) fun _ _ => trivial

/-- Arithmetic gives the same to formulas. -/
theorem Gives.lift {x : Except Fault Value} (gives : Gives P x) :
    Gives P (liftM x : Except Failure Value) := by
  cases x <;> exact gives

end Gives

open Value Gives

namespace Aggregate

/-- A sum is a number. -/
theorem sum_gives (vs : List Value) : Gives Computed (sum vs) :=
  after fun _ => after fun _ => trivial

/-- A mean is a number. -/
theorem average_gives (vs : List Value) : Gives Computed (average vs) := by
  refine after fun ns => ?_
  -- Of no numbers there is no mean, and that is given as a text.
  split
  · trivial
  · exact after fun _ => after fun _ => trivial

/-- A survivor is a number. -/
theorem survivor_gives (better : Number → Number → Number) (vs : List Value) :
    Gives Computed (survivor better vs) := by
  refine after fun ns => ?_
  split <;> trivial

/-- A count is a number. -/
theorem count_gives (vs : List Value) : Gives Computed (count vs) :=
  after fun _ => trivial

end Aggregate

namespace Statistics

/-- A statistic is a number or nothing. -/
theorem ofNumbers_gives (enough : Nat) (statistic : List Number → Except Fault Number)
    (vs : List Value) : Gives Computed (ofNumbers enough statistic vs) := by
  refine after fun ns => ?_
  split
  · trivial
  · exact after fun _ => trivial

/-- A mode is a number or nothing. -/
theorem mode_gives (vs : List Value) : Gives Computed (mode vs) := by
  refine after fun ns => ?_
  -- The mode of fewer than two numbers, or of numbers that are all different, is nothing.
  dsimp only
  split
  · split <;> trivial
  · trivial

end Statistics

namespace Rounding

/-- A rounded number is a number, and nothing is rounded to nothing. -/
theorem round_gives (value decimals : Value) : Gives Computed (round value decimals) := by
  refine after fun n => after fun d => ?_
  split
  · exact after fun _ => after fun _ => trivial
  · trivial

/-- A function of one finite number gives a number or nothing. -/
theorem onFinite_gives (f : Number → Except Fault Int) (value : Value) :
    Gives Computed (onFinite f value) := by
  refine after fun n => ?_
  split
  · exact after fun _ => trivial
  · trivial

/-- An absolute value is a number or nothing. -/
theorem absolute_gives (value : Value) : Gives Computed (absolute value) := by
  refine after fun n => ?_
  split <;> trivial

/-- A square root is a number or nothing. -/
theorem squareRoot_gives (value : Value) : Gives Computed (squareRoot value) := by
  refine after fun n => ?_
  split
  · trivial
  · split
    · trivial
    · exact after fun _ => trivial

/-- A power is a number, or nothing where it would be complex. -/
theorem power_gives (base exponent : Value) : Gives Computed (power base exponent) := by
  -- A complex power is given as nothing, too.
  refine after fun b => after fun e => ?_
  split
  · split <;> trivial
  · trivial

end Rounding

namespace Game

/-- A damage is a number, nothing, or invalid. -/
theorem damage_gives (attack defense : Value) : Gives Computed (damage attack defense) := by
  refine after fun a => after fun d => ?_
  split
  · -- Attack and defense are both there, and their sum may vanish.
    split
    · trivial
    · exact after fun _ => after fun _ => after fun _ => after fun _ => trivial
  · trivial

/-- The chance of a drop is a number or invalid. -/
theorem dropRate_gives (base luck enemy player : Value) :
    Gives Computed (dropRate base luck enemy player) := by
  refine after fun b => after fun l => after fun e => after fun p => ?_
  split
  · trivial
  · exact after fun _ => after fun _ => trivial

/-- The experience of a level is a number or invalid. -/
theorem experience_gives (level base factor exponent : Value) :
    Gives Computed (experience level base factor exponent) := by
  refine after fun l => after fun b => after fun f => after fun e => ?_
  -- A missing argument makes the experience invalid, and so does a level below the first one.
  split
  · trivial
  · split
    · trivial
    · refine after fun scaled => after fun power => ?_
      split
      · exact after fun _ => after fun _ => after fun _ => trivial
      · trivial

/-- The rate before the threshold is a number. -/
theorem softRate_gives (base pity threshold start : Number) :
    Gives Computed (softRate base pity threshold start) :=
  after fun _ => after fun _ => after fun _ => after fun _ => after fun _ => after fun _ => trivial

/-- The rate of a draw is a number or invalid. -/
theorem drawRate_gives (tier pity base threshold : Value) :
    Gives Computed (drawRate tier pity base threshold) := by
  refine after fun t => after fun p => after fun b => after fun h => ?_
  split
  · trivial
  · split
    · trivial
    · refine after fun rate => ?_
      split
      · trivial
      · -- From the start of the soft rate on the rate is computed, and before it it is the base.
        refine after fun quarter => after fun start => ?_
        dsimp only
        split
        · exact (softRate_gives _ _ _ _).lift
        · trivial

/-- A comparison with two bounds gives a truth value or is invalid. -/
theorem isBetween_gives (value bounds : Value) : Gives Computed (isBetween value bounds) := by
  refine after fun n => ?_
  split
  · refine after fun low => after fun high => ?_
    split <;> trivial
  · trivial

section Root

variable {level base growth : Number} {w : Value}

/-- The factor of a level on the exponential curve as a double. -/
def factor (growth : Number) : Except Fault Float := do
  -- Growth is given in percent.
  let rate ← growth.div (.whole 100)
  (← Number.add (.whole 1) rate).toFloat

/-- The levels above the first one as a double. -/
def steps (level : Number) : Except Fault Float := do
  -- They count how often the factor is applied.
  (← level.sub (.whole 1)).toFloat

/-- On the exponential curve a level above the first one comes to a root of a negative number. -/
def Rooted (level growth : Number) : Prop :=
  -- The factor is below zero, and the levels are no whole number.
  ∃ x y, factor growth = .ok x ∧ steps level = .ok y ∧ Number.IsRoot x y

/-- Quotients are doubles. -/
theorem exists_float_of_div {a b c : Number} (done : a.div b = .ok c) : ∃ x, c = .float x := by
  unfold Number.div at done
  split at done
  · rename_i m n
    -- A quotient of whole numbers is computed as a double.
    cases divided : Number.quotient m n with
    | error fault =>
      rw [divided] at done
      cases done
    | ok x =>
      rw [divided] at done
      exact ⟨x, (Except.ok.inj done).symm⟩
  · -- With a double on either side the other number is converted.
    simp only [bind_eq_ok_iff] at done
    obtain ⟨x, -, y, -, done⟩ := done
    split at done
    · cases done
    · cases done
      exact ⟨_, rfl⟩

/-- Whether there is a root to take, once factor and levels are computed. -/
theorem rooted_iff {x y : Float} (factors : factor growth = .ok x) (counts : steps level = .ok y) :
    Rooted level growth ↔ Number.IsRoot x y := by
  constructor
  · rintro ⟨x', y', factors', counts', root⟩
    -- What was computed is computed once, so factor and levels are the given ones.
    cases factors.symm.trans factors'
    cases counts.symm.trans counts'
    exact root
  · exact fun root => ⟨x, y, factors, counts, root⟩

/-- The exponential curve gives a number, or a complex one for roots of negative numbers. -/
theorem grow_exponential (done : grow .exponential level base growth = .ok w) :
    w.ComplexIf (Rooted level growth) := by
  rw [grow] at done
  simp only [bind_eq_ok_iff] at done
  -- The steps of the curve are taken apart: rate, sum, levels, power and the scaled value.
  obtain ⟨rate, rated, sum, summed, above, counted, power, raised, scaled⟩ := done
  obtain ⟨r, rfl⟩ := exists_float_of_div rated
  rw [Number.add_float, bind_eq_ok_iff] at summed
  obtain ⟨one, converted, ⟨⟩⟩ := summed
  rw [Number.power_float, bind_eq_ok_iff] at raised
  obtain ⟨y, exponent, powered⟩ := raised
  -- The sum in which the growth enters is the factor as a double.
  have factors : factor growth = .ok (one + r) := by
    rw [factor, rated]
    show Number.add (.whole 1) (.float r) >>= Number.toFloat = _
    rw [Number.add_float, converted]
    rfl
  have counts : steps level = .ok y := by
    rw [steps, counted]
    exact exponent
  -- Whether the power is complex is known, and scaling keeps its kind.
  rw [ComplexIf, rooted_iff factors counts, ← Number.floatPower_complex_iff powered]
  cases power with
  | real n =>
    rw [scaleBy, bind_eq_ok_iff] at scaled
    obtain ⟨product, -, ⟨⟩⟩ := scaled
    -- A real power is scaled to a number, by a product that may fail.
    exact ⟨fun _ => trivial, by rintro ⟨re, im, ⟨⟩⟩⟩
  | complex re im =>
    rw [scaleBy, bind_eq_ok_iff] at scaled
    obtain ⟨b, -, ⟨⟩⟩ := scaled
    exact ⟨fun other => absurd ⟨re, im, rfl⟩ other, fun _ => ⟨_, _, rfl⟩⟩

/-- The other curves give numbers. -/
theorem grow_gives {curve : Curve} (other : curve ≠ .exponential) :
    Gives Computed (grow curve level base growth) := by
  cases curve with
  -- These curves multiply, add and take logarithms of numbers.
  | linear | logarithmic => exact after fun _ => after fun _ => after fun _ => trivial
  | exponential => exact absurd rfl other
  | quadratic =>
    refine after fun steps => after fun power => ?_
    -- A square that is complex is given as nothing.
    split
    · exact after fun _ => after fun _ => trivial
    · trivial

/-- Every curve gives a number, but the exponential one a complex number for roots of negative ones. -/
theorem curve_gives (curve : Curve) : Gives (ComplexIf (curve = .exponential ∧ Rooted level growth))
    (grow curve level base growth) := by
  by_cases exponential : curve = .exponential
  · subst exponential
    cases grown : grow .exponential level base growth with
    | error fault => trivial
    | ok w => exact (grow_exponential grown).congr (and_iff_right rfl).symm
  · refine (grow_gives exponential).mono (fun w computed => ?_) fun _ _ => trivial
    exact computed.complexIf fun root => exponential root.1

end Root

/-- Arguments that scale a stat by a root of a negative number. -/
def ComesToRoot (level base growth curve : Value) : Prop :=
  -- Without an argument for it, growth is ten.
  ∃ l b g name, Argument.number? level = .ok (some l) ∧ Argument.number? base = .ok (some b) ∧
    Argument.number? growth = .ok g ∧ Argument.text curve = .ok name ∧ l.below (.whole 1) = false ∧
      Curve.named? (Text.lower name) = some .exponential ∧ Rooted l (g.getD (.whole 10))

/-- What is read from arguments that come to a root. -/
theorem ComesToRoot.of_read {level base growth curve : Value} {l b g : Option Number} {name : String}
    (root : ComesToRoot level base growth curve) (levels : Argument.number? level = .ok l)
    (bases : Argument.number? base = .ok b) (growths : Argument.number? growth = .ok g)
    (names : Argument.text curve = .ok name) :
    ∃ l' b', l = some l' ∧ b = some b' ∧ l'.below (.whole 1) = false ∧
      Curve.named? (Text.lower name) = some .exponential ∧ Rooted l' (g.getD (.whole 10)) := by
  obtain ⟨l', b', g', name', levels', bases', growths', names', above, named, rooted⟩ := root
  -- Each argument is read once, so both readings agree.
  cases levels.symm.trans levels'
  cases bases.symm.trans bases'
  cases growths.symm.trans growths'
  cases names.symm.trans names'
  exact ⟨l', b', rfl, rfl, above, named, rooted⟩

/-- A stat at a level is a number or invalid, but complex at roots of negative numbers. -/
theorem statScale_gives (level base growth curve : Value) :
    Gives (ComplexIf (ComesToRoot level base growth curve)) (statScale level base growth curve) := by
  refine afterwards fun l levels => afterwards fun b bases => ?_
  refine afterwards fun g growths => afterwards fun name names => ?_
  -- What was read decides whether there is a root.
  have read (root : ComesToRoot level base growth curve) :=
    root.of_read levels bases growths names
  have invalid : Value.invalid.Computed := trivial
  split
  · -- With both numbers the level decides next.
    rename_i l b
    split
    · rename_i below
      refine invalid.complexIf fun root => ?_
      obtain ⟨l', b', ⟨⟩, ⟨⟩, above, -, -⟩ := read root
      rw [above] at below
      cases below
    · rename_i above
      dsimp only
      split
      · rename_i c named
        -- The name of the curve is the one that was read, so the root is one of this call.
        have same : c = .exponential ∧ Rooted l (g.getD (.whole 10)) ↔
            ComesToRoot level base growth curve := by
          constructor
          · rintro ⟨rfl, rooted⟩
            exact ⟨l, b, g, name, levels, bases, growths, names, Bool.eq_false_iff.mpr above, named,
              rooted⟩
          · intro root
            obtain ⟨l', b', ⟨⟩, ⟨⟩, -, named', rooted⟩ := read root
            exact ⟨Option.some.inj (named.symm.trans named'), rooted⟩
        exact (curve_gives c).lift.mono (fun w complex => complex.congr same) fun _ _ => trivial
      · rename_i unnamed
        refine invalid.complexIf fun root => ?_
        obtain ⟨l', b', ⟨⟩, ⟨⟩, -, named, -⟩ := read root
        rw [unnamed] at named
        cases named
  · -- Without a level or a base nothing is scaled, and a root would need both.
    rename_i missing
    refine invalid.complexIf fun root => ?_
    obtain ⟨l', b', rfl, rfl, -, -, -⟩ := read root
    exact missing l' b' rfl rfl

end Game

namespace Builtin

/-- A function that neither passes an argument on nor scales a stat computes what it gives. -/
theorem apply_gives {b : Builtin} (chooses : b ≠ .ifElse) (scales : b ≠ .statScale) (vs : List Value) :
    Gives Computed (b.apply vs) := by
  -- One case for each function; arguments that do not fit give nothing at all.
  cases b with
  | ifElse => exact absurd rfl chooses
  | statScale => exact absurd rfl scales
  | sum | statTotal => exact Aggregate.sum_gives vs
  | average => exact Aggregate.average_gives vs
  | min | max => exact Aggregate.survivor_gives _ vs
  | count => exact Aggregate.count_gives vs
  | counta | and | or => trivial
  | median | stdev | stdevp | var | varp => exact Statistics.ofNumbers_gives _ _ vs
  | mode => exact Statistics.mode_gives vs
  | concatenate => exact after fun _ => trivial
  | round =>
    match vs with
    | [v] => exact Rounding.round_gives v _
    | [v, d] => exact Rounding.round_gives v d
    | [] | _ :: _ :: _ :: _ => trivial
  | ceiling | floor =>
    match vs with
    | [v] => exact Rounding.onFinite_gives _ v
    | [] | _ :: _ :: _ => trivial
  | abs =>
    match vs with
    | [v] => exact Rounding.absolute_gives v
    | [] | _ :: _ :: _ => trivial
  | sqrt =>
    match vs with
    | [v] => exact Rounding.squareRoot_gives v
    | [] | _ :: _ :: _ => trivial
  | not =>
    match vs with
    | [v] => trivial
    | [] | _ :: _ :: _ => trivial
  | upper | lower | len | rarityBonus =>
    match vs with
    | [v] => exact after fun _ => trivial
    | [] | _ :: _ :: _ => trivial
  | power =>
    match vs with
    | [v, e] => exact Rounding.power_gives v e
    | [] | [_] | _ :: _ :: _ :: _ => trivial
  | damageCalc =>
    match vs with
    | [a, d] => exact Game.damage_gives a d
    | [] | [_] | _ :: _ :: _ :: _ => trivial
  | between =>
    match vs with
    | [v, bounds] => exact Game.isBetween_gives v bounds
    | [] | [_] | _ :: _ :: _ :: _ => trivial
  | left | right =>
    match vs with
    | [s] | [s, _] => exact after fun _ => after fun _ => trivial
    | [] | _ :: _ :: _ :: _ => trivial
  | mid =>
    match vs with
    | [s, _] | [s, _, _] => exact after fun _ => after fun _ => after fun _ => trivial
    | [] | [_] | _ :: _ :: _ :: _ :: _ => trivial
  | dropRate =>
    match vs with
    | [_] | [_, _] | [_, _, _] | [_, _, _, _] => exact Game.dropRate_gives _ _ _ _
    | [] | _ :: _ :: _ :: _ :: _ :: _ => trivial
  | expCurve =>
    match vs with
    | [_] | [_, _] | [_, _, _] | [_, _, _, _] => exact Game.experience_gives _ _ _ _
    | [] | _ :: _ :: _ :: _ :: _ :: _ => trivial
  | gachaRate =>
    match vs with
    | [_] | [_, _] | [_, _, _] | [_, _, _, _] => exact Game.drawRate_gives _ _ _ _
    | [] | _ :: _ :: _ :: _ :: _ :: _ => trivial

/-- The choice between two values gives one of its arguments, or a truth value in place of a missing
one. -/
theorem ifElse_gives (vs : List Value) :
    Gives (fun w => w ∈ vs ∨ w.Computed) (ifElse.apply vs) := by
  -- What is chosen is the second argument or the third one.
  have one (c t f : Value) : Gives (fun w => w = t ∨ w = f) (Logic.choose c t f) := by
    rw [Logic.choose]
    split
    · exact .inl rfl
    · exact .inr rfl
  match vs with
  | [c] =>
    -- The two others are truth values where they are missing.
    refine (one c _ _).mono (fun w => ?_) fun _ _ => trivial
    rintro (rfl | rfl) <;> exact .inr trivial
  | [c, t] =>
    refine (one c t _).mono (fun w => ?_) fun _ _ => trivial
    rintro (rfl | rfl)
    · exact .inl (by simp)
    · exact .inr trivial
  | [c, t, f] =>
    refine (one c t f).mono (fun w => ?_) fun _ _ => trivial
    rintro (rfl | rfl) <;> exact .inl (by simp)
  | [] | _ :: _ :: _ :: _ :: _ => trivial

/-- A stat with as many arguments as there are, the others being nothing. -/
theorem statScale_apply_gives (vs : List Value) :
    Gives (ComplexIf (Game.ComesToRoot (vs.getD 0 .blank) (vs.getD 1 .blank) (vs.getD 2 .blank)
      (vs.getD 3 .blank))) (statScale.apply vs) := by
  match vs with
  -- With two, three or four arguments the missing ones are nothing.
  | [l, b] | [l, b, g] | [l, b, g, c] => exact Game.statScale_gives _ _ _ _
  | [] | [_] | _ :: _ :: _ :: _ :: _ :: _ => trivial

/-- No function brings moments with an offset into what it gives. -/
theorem apply_told (b : Builtin) {zoned : Prop} {vs : List Value} (told : ∀ v ∈ vs, v.Told zoned) :
    Gives (Told zoned) (b.apply vs) := by
  by_cases scales : b = .statScale
  · subst scales
    exact (statScale_apply_gives vs).mono (fun _ complex => complex.told) fun _ _ => trivial
  by_cases chooses : b = .ifElse
  · subst chooses
    -- An argument that is passed on brings its own moments along, but no new ones.
    refine (ifElse_gives vs).mono (fun w => ?_) fun _ _ => trivial
    rintro (passed | computed)
    · exact told w passed
    · exact computed.told
  · exact Gives.told (apply_gives chooses scales vs)

/-- A function on arguments that scale a stat by a root of a negative number. -/
def ComesToRoot (b : Builtin) (vs : List Value) : Prop :=
  -- No other function lets complex numbers out.
  b = .statScale ∧
    Game.ComesToRoot (vs.getD 0 .blank) (vs.getD 1 .blank) (vs.getD 2 .blank) (vs.getD 3 .blank)

/-- What a function gives for native arguments is native, has a type and can be stored in a cell, unless
a stat is scaled by a root of a negative number: then it is complex. -/
theorem apply_native (b : Builtin) {vs : List Value} {w : Value} (native : ∀ v ∈ vs, v.Native)
    (done : b.apply vs = .ok w) :
    (¬ b.ComesToRoot vs →
      w.Native ∧ (∃ t, w.type = .ok t) ∧ ∃ cell, Cell.ofValue w = .ok cell) ∧
    (b.ComesToRoot vs → ∃ re im, w = .foreign (.complex re im)) := by
  -- What is native has the other two properties.
  have whole (native : w.Native) :
      w.Native ∧ (∃ t, w.type = .ok t) ∧ ∃ cell, Cell.ofValue w = .ok cell :=
    ⟨native, native.exists_type, native.exists_cell⟩
  by_cases scales : b = .statScale
  · subst scales
    obtain ⟨computed, complex⟩ := (statScale_apply_gives vs).of_ok done
    exact ⟨fun none => whole (computed fun root => none ⟨rfl, root⟩).native, fun root => complex root.2⟩
  · refine ⟨fun _ => whole ?_, fun root => absurd root.1 scales⟩
    by_cases chooses : b = .ifElse
    · subst chooses
      -- Either the value was passed on or it was computed.
      rcases (ifElse_gives vs).of_ok done with passed | computed
      · exact native w passed
      · exact computed.native
    · exact ((apply_gives chooses scales vs).of_ok done).native

/-- The arguments of a stat at a broken level, with a growth that turns its factor negative. -/
def brokenStat : List Value :=
  [.float 2.5, .whole 100, .whole (-300), .text "exponential"]

/-- All arguments of the broken stat are native. -/
theorem brokenStat_native : ∀ v ∈ brokenStat, v.Native := by
  intro v member
  -- All four arguments are scalars.
  simp only [brokenStat, List.mem_cons, List.not_mem_nil, or_false] at member
  rcases member with rfl | rfl | rfl | rfl <;> exact Computed.native trivial

/-- The broken stat is scaled by a root of a negative number: minus two, to one and a half. -/
theorem brokenStat_comesToRoot : statScale.ComesToRoot brokenStat := by
  -- The doubles are given with what they are worth.
  have rooted : Game.Rooted (.float 2.5) (.whole (-300)) := by
    refine ⟨-2.0, 1.5, rfl, rfl, -2, 3 / 2, ⟨-2 ^ 52, -51, rfl, by norm_num⟩, by norm_num,
      ⟨3 * 2 ^ 51, -52, rfl, by norm_num⟩, fun n same => ?_⟩
    -- Twice the exponent is three, which is odd.
    have twice : (3 : ℤ) = 2 * n := by exact_mod_cast (show (3 : ℚ) = 2 * n by linarith only [same])
    omega
  exact ⟨rfl, .float 2.5, .whole 100, some (.whole (-300)), "exponential", rfl, rfl, rfl, rfl, rfl,
    by decide, rooted⟩

/-- The broken stat is a complex number; only a power beyond the doubles would be an error in its
place. -/
theorem statScale_brokenStat :
    (∃ re im, statScale.apply brokenStat = .ok (.foreign (.complex re im))) ∨
      statScale.apply brokenStat = .error (.fault .complexPowerTooLarge) := by
  -- All but the power of two and the turn by its angle is computed here.
  have call : statScale.apply brokenStat =
      (Number.complexPower (-2.0) 1.5 >>= Game.scaleBy (.whole 100) : Except Fault Value) := rfl
  rw [call, Number.complexPower]
  split
  · exact .inr rfl
  · exact .inl ⟨_, _, rfl⟩

/-- A stat at a whole level is a number; at a broken level with a negative factor it is complex, unless
the power is beyond the doubles. -/
theorem apply_native_stat :
    (∀ v ∈ [Value.whole 3, .whole 100], v.Native) ∧
    statScale.apply [.whole 3, .whole 100] = .ok (.whole 120) ∧
    ((Value.whole 120).Native ∧ (∃ t, (Value.whole 120).type = .ok t) ∧
      ∃ cell, Cell.ofValue (.whole 120) = .ok cell) ∧
    (∀ w, statScale.apply brokenStat = .ok w → ∃ re im, w = .foreign (.complex re im)) ∧
    ((∃ w, statScale.apply brokenStat = .ok w) ∨
      statScale.apply brokenStat = .error (.fault .complexPowerTooLarge)) := by
  have native : ∀ v ∈ [Value.whole 3, .whole 100], v.Native := by
    intro v member
    simp only [List.mem_cons, List.not_mem_nil, or_false] at member
    rcases member with rfl | rfl <;> exact Computed.native trivial
  -- The linear curve, which is taken without a name, comes to no root.
  have none : ¬ statScale.ComesToRoot [.whole 3, .whole 100] := by
    rintro ⟨-, l, b, g, name, -, -, -, names, -, named, -⟩
    cases names
    exact absurd named (by decide)
  exact ⟨native, rfl, (apply_native statScale native rfl).1 none,
    fun w done => (apply_native statScale brokenStat_native done).2 brokenStat_comesToRoot,
    statScale_brokenStat.imp (fun ⟨re, im, done⟩ => ⟨_, done⟩) id⟩

/-- A function on native arguments leaves the values: the broken stat has no type and no cell can store
it, unless the power is beyond the doubles. -/
theorem brokenStat_foreign : (∀ v ∈ brokenStat, v.Native) ∧
    (statScale.apply brokenStat = .error (.fault .complexPowerTooLarge) ∨
      ∃ w, statScale.apply brokenStat = .ok w ∧ ¬ w.Native ∧ (∀ t, w.type ≠ .ok t) ∧
        ∀ cell, Cell.ofValue w ≠ .ok cell) := by
  refine ⟨brokenStat_native, ?_⟩
  rcases statScale_brokenStat with ⟨re, im, done⟩ | failed
  · refine .inr ⟨_, done, fun native => ?_, fun t => nofun, fun cell => nofun⟩
    -- Native values have a type, complex numbers have none.
    obtain ⟨t, typed⟩ := native.exists_type
    cases typed
  · exact .inl failed

end Builtin

namespace BinaryOp

/-- A quotient is a number. -/
theorem divide_gives (left right : Value) : Gives Computed (divide left right) := by
  refine after fun divisor => ?_
  dsimp only
  -- A divisor of zero is given as a text.
  split
  · trivial
  · exact after fun _ => after fun _ => trivial

/-- A power is a number, or out of range where it would be complex. -/
theorem raise_gives (left right : Value) : Gives Computed (raise left right) := by
  refine after fun base => after fun exponent => ?_
  -- A complex result and one that is not finite are texts.
  split
  · trivial
  · trivial
  · split <;> trivial

/-- An operator computes what it gives. -/
theorem compute_gives (op : BinaryOp) (left right : Value) : Gives Computed (op.compute left right) := by
  -- One case for each operator.
  cases op with
  | eq | ne | lt | gt | le | ge | add | sub | mul => exact after fun _ => trivial
  | concat => exact after fun _ => after fun _ => after fun _ => after fun _ => trivial
  | div => exact divide_gives left right
  | pow => exact raise_gives left right

/-- A text in place of a result out of range is computed as well. -/
theorem apply_gives (op : BinaryOp) (left right : Value) : Gives Computed (op.apply left right) := by
  rw [apply]
  split
  · split <;> trivial
  · exact op.compute_gives left right

end BinaryOp

/-- A sign gives a number. -/
theorem UnaryOp.apply_gives (op : UnaryOp) (operand : Value) : Gives Computed (op.apply operand) := by
  refine after fun n => ?_
  cases op <;> trivial

/-- A call gives what its function gives. -/
theorem SheetFunction.call_gives {P : Value → Prop} {f : SheetFunction} {vs : List Value}
    (gives : Gives P (f.compute vs)) (name : String) : Gives P (f.call name vs) := by
  rw [call]
  split
  · -- Too few or too many arguments fail before the function is called.
    split <;> trivial
  · exact gives

end Spreadsheet
