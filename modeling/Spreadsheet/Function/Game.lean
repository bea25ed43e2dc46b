import Spreadsheet.Function.Aggregate
import Spreadsheet.Function.Rounding

/-! Functions for game data: damage, growth, drops and draws. -/

namespace Spreadsheet.Game

/-- The damage of an attack against a defense: a hundredth of it less the share that is kept off. -/
def damage (attack defense : Value) : Except Failure Value := do
  -- The share is rounded before it is multiplied.
  let a ← Argument.finite? attack
  let d ← Argument.finite? defense
  match a, d with
  | some a, some d =>
    if d.same (.whole (-100)) then return .invalid
    let whole ← (Number.add (.whole 100) d : Except Fault Number)
    let share ← (Number.div (.whole 100) whole : Except Fault Number)
    let left ← (a.mul share : Except Fault Number)
    return .whole (← (left.floor : Except Fault Int))
  | _, _ => return .blank

/-- The factor of each rarity. -/
def rarityFactors : List (String × Float) :=
  [("common", 1.0), ("uncommon", 1.1), ("rare", 1.25), ("epic", 1.5), ("legendary", 2.0),
    ("mythic", 3.0)]

/-- The factor of a rarity by its name, one for other names. -/
def rarityBonus (rarity : Value) : Except Failure Value := do
  -- Names are read in any case.
  let name := Text.lower (← Argument.text rarity)
  return .float ((rarityFactors.lookup name).getD 1.0)

/-- The ways in which a stat can grow. -/
inductive Curve where
  /-- The same amount for every level. -/
  | linear
  /-- The same factor for every level. -/
  | exponential
  /-- By the logarithm of the level. -/
  | logarithmic
  /-- By the square of the level. -/
  | quadratic
  deriving DecidableEq, Repr

/-- The curve with a name; the empty name is the linear one. -/
def Curve.named? : String → Option Curve
  -- Names are in lower case.
  | "" | "linear" => some linear
  | "exponential" => some exponential
  | "logarithmic" => some logarithmic
  | "quadratic" => some quadratic
  | _ => none

/-- A number times a power, which may be complex. -/
def scaleBy (base : Number) : Number.Power → Except Fault Value
  -- The number joins a complex product as a complex number without imaginary part.
  | .real n => do return .number (← base.mul n)
  | .complex re im => do
    let b ← base.toFloat
    return .foreign (.complex (b * re - 0.0 * im) (b * im + 0.0 * re))

/-- A base value grown to a level along a curve. -/
def grow (curve : Curve) (level base growth : Number) : Except Fault Value :=
  -- On every curve the first level has the base value.
  match curve with
  | .linear => do
    let steps ← level.sub (.whole 1)
    return .number (← base.add (← steps.mul growth)).normalize
  | .exponential => do
    let rate ← growth.div (.whole 100)
    let factor ← Number.add (.whole 1) rate
    let steps ← level.sub (.whole 1)
    scaleBy base (← factor.power steps)
  | .logarithmic => do
    let log ← level.log
    return .number (← base.add (← growth.mul (.float log)))
  | .quadratic => do
    let steps ← level.sub (.whole 1)
    match ← steps.power (.whole 2) with
    | .real square => return .number (← base.add (← growth.mul square)).normalize
    | .complex _ _ => throw .mismatch

/-- A stat at a level; growth is ten by default, the curve linear. -/
def statScale (level base growth curve : Value) : Except Failure Value := do
  -- All arguments are read before any of them is refused.
  let l ← Argument.number? level
  let b ← Argument.number? base
  let g := (← Argument.number? growth).getD (.whole 10)
  let name := Text.lower (← Argument.text curve)
  match l, b with
  | some l, some b =>
    if l.below (.whole 1) then return .invalid
    match Curve.named? name with
    | some curve => (grow curve l b g : Except Fault Value)
    | none => return .invalid
  | _, _ => return .invalid

/-- A number that is missing or zero as the whole zero. -/
def orZero (n : Option Number) : Number :=
  -- Negative zero goes the same way.
  match n with
  | some n => if n.isZero then .whole 0 else n
  | none => .whole 0

/-- The chance of a drop in percent: raised by luck and by the levels above the enemy. -/
def dropRate (base luck enemy player : Value) : Except Failure Value := do
  -- Levels count only if both are given; a hundred percent is the most.
  let b ← Argument.number? base
  let luck := orZero (← Argument.number? luck)
  let enemy ← Argument.number? enemy
  let player ← Argument.number? player
  match b with
  | none => return .invalid
  | some b =>
    let lucky ← (if Number.below (.whole 0) luck then do b.add (← luck.mul (.float 0.1)) else .ok b
      : Except Fault Number)
    let rate ← (match enemy, player with
      | some enemy, some player =>
        if enemy.below player then do lucky.add (← (← player.sub enemy).mul (.float 2.5))
        else .ok lucky
      | _, _ => .ok lucky : Except Fault Number)
    return .number (rate.least (.whole 100)).normalize

/-- The experience that a level needs: base times factor times a power of the level, rounded. -/
def experience (level base factor exponent : Value) : Except Failure Value := do
  -- Missing arguments are a hundred, one and a half, and one and a half.
  let l ← Argument.finite? level
  let b := (← Argument.finite? base).getD (.whole 100)
  let f := (← Argument.finite? factor).getD (.float 1.5)
  let e := (← Argument.finite? exponent).getD (.float 1.5)
  match l with
  | none => return .invalid
  | some l =>
    if l.below (.whole 1) then return .invalid
    let scaled ← (b.mul f : Except Fault Number)
    match ← (l.power e : Except Fault Number.Power) with
    | .real growth =>
      let amount ← (scaled.mul growth : Except Fault Number)
      let rounded ← (Rounding.roundHalfAway amount 0 : Except Fault Number)
      return .whole (← (rounded.truncate : Except Fault Int))
    | .complex _ _ => throw (.fault .mismatch)

/-- The rates of the tiers one to six in percent. -/
def tierRates : List Number :=
  [.whole 40, .whole 25, .whole 15, .whole 10, .whole 5, .float 0.6]

/-- The rate that a tier has by itself. -/
def tierRate (tier : Number) : Except Fault Number := do
  -- A tier between two tiers has the rate of the lower one.
  let place ← tier.truncate
  return tierRates.getD (place - 1).toNat (.whole 0)

/-- The rate in the last quarter before the threshold: it climbs to ten times the base, at most 99. -/
def softRate (base pity threshold start : Number) : Except Fault Value := do
  -- Progress is the share of the last quarter that has passed.
  let passed ← pity.sub start
  let span ← threshold.sub start
  let progress ← passed.div span
  let extra ← progress.mul (.whole 9)
  let factor ← Number.add (.whole 1) extra
  let rate ← base.mul factor
  return .number (rate.least (.whole 99)).normalize

/-- The rate of a draw in percent; it is certain once pity reaches the threshold. -/
def drawRate (tier pity base threshold : Value) : Except Failure Value := do
  -- The threshold is ninety by default, and the rate climbs from three quarters of it on.
  let t ← Argument.number? tier
  let pity := orZero (← Argument.number? pity)
  let b ← Argument.number? base
  let threshold := (← Argument.number? threshold).getD (.whole 90)
  match t with
  | none => return .invalid
  | some t =>
    if t.below (.whole 1) || Number.below (.whole 6) t then return .invalid
    let base ← (match b with
      | some b => .ok b
      | none => tierRate t : Except Fault Number)
    if threshold.atMost pity then return .whole 100
    let quarter ← (threshold.mul (.float 0.75) : Except Fault Number)
    let start := Number.whole (← (quarter.floor : Except Fault Int))
    if start.atMost pity then (softRate base pity threshold start : Except Fault Value)
    else return .number base

/-- A number lies between the two bounds of a list, both included. -/
def isBetween (value bounds : Value) : Except Failure Value := do
  -- Anything but two bounds is invalid.
  let n ← Argument.number? value
  match n, bounds.leaves with
  | some n, [low, high] =>
    let low ← Argument.number? low
    let high ← Argument.number? high
    match low, high with
    | some low, some high => return .truth (low.atMost n && n.atMost high)
    | _, _ => return .invalid
  | _, _ => return .invalid

end Spreadsheet.Game
