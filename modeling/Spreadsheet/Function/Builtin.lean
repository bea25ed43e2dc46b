import Spreadsheet.Function.Aggregate
import Spreadsheet.Function.Game
import Spreadsheet.Function.Logic
import Spreadsheet.Function.Rounding
import Spreadsheet.Function.Statistics
import Spreadsheet.Function.Textual

/-! The functions that every evaluator knows: their names, their parameters and what they compute. -/

namespace Spreadsheet

/-- The parameters of a function. -/
structure Signature where
  /-- Parameters that need an argument. -/
  required : List String
  /-- How many further parameters there are. -/
  optional : Nat
  /-- Any number of arguments may follow. -/
  variadic : Bool
  deriving DecidableEq, Repr

/-- Why a number of arguments does not fit a signature, if it does not. -/
def Signature.problem? (signature : Signature) (count : Nat) : Option ArgumentProblem :=
  -- The first parameter without an argument is reported.
  match signature.required[count]? with
  | some parameter => some (.missing parameter)
  | none =>
    if !signature.variadic && signature.required.length + signature.optional < count then some .tooMany
    else none

/-- The functions that every evaluator knows. -/
inductive Builtin where
  | sum | average | min | max | count | counta
  | round | ceiling | floor | abs | sqrt | power
  | median | mode | stdev | stdevp | var | varp
  | ifElse | and | or | not
  | concatenate | left | right | mid | upper | lower | len
  | damageCalc | statTotal | rarityBonus | statScale | dropRate | expCurve | gachaRate | between
  deriving DecidableEq, Repr

namespace Builtin

/-- All built-in functions. -/
def all : List Builtin :=
  [sum, average, min, max, count, counta, round, ceiling, floor, abs, sqrt, power, median, mode,
    stdev, stdevp, var, varp, ifElse, and, or, not, concatenate, left, right, mid, upper, lower, len,
    damageCalc, statTotal, rarityBonus, statScale, dropRate, expCurve, gachaRate, between]

/-- The name of a function in formulas. -/
def name : Builtin → String
  -- Names are in upper case.
  | sum => "SUM"
  | average => "AVERAGE"
  | min => "MIN"
  | max => "MAX"
  | count => "COUNT"
  | counta => "COUNTA"
  | round => "ROUND"
  | ceiling => "CEILING"
  | floor => "FLOOR"
  | abs => "ABS"
  | sqrt => "SQRT"
  | power => "POWER"
  | median => "MEDIAN"
  | mode => "MODE"
  | stdev => "STDEV"
  | stdevp => "STDEVP"
  | var => "VAR"
  | varp => "VARP"
  | ifElse => "IF"
  | and => "AND"
  | or => "OR"
  | not => "NOT"
  | concatenate => "CONCATENATE"
  | left => "LEFT"
  | right => "RIGHT"
  | mid => "MID"
  | upper => "UPPER"
  | lower => "LOWER"
  | len => "LEN"
  | damageCalc => "DAMAGE_CALC"
  | statTotal => "STAT_TOTAL"
  | rarityBonus => "RARITY_BONUS"
  | statScale => "STAT_SCALE"
  | dropRate => "DROP_RATE"
  | expCurve => "EXP_CURVE"
  | gachaRate => "GACHA_RATE"
  | between => "BETWEEN"

/-- The function with a name in upper case. -/
def named? (name : String) : Option Builtin :=
  -- No two functions share a name.
  all.find? fun b => b.name == name

/-- The parameters of a function. -/
def signature : Builtin → Signature
  -- Aggregates take any number of arguments.
  | sum | average | min | max | count | counta | median | mode | stdev | stdevp | var | varp | and
  | or | concatenate | statTotal => ⟨[], 0, true⟩
  | round => ⟨["value"], 1, false⟩
  | ceiling | floor | abs | sqrt | not => ⟨["value"], 0, false⟩
  | power => ⟨["base", "exponent"], 0, false⟩
  | ifElse => ⟨["condition"], 2, false⟩
  | left | right => ⟨["text"], 1, false⟩
  | mid => ⟨["text", "start_num"], 1, false⟩
  | upper | lower | len => ⟨["text"], 0, false⟩
  | damageCalc => ⟨["attack", "defense"], 0, false⟩
  | rarityBonus => ⟨["rarity"], 0, false⟩
  | statScale => ⟨["level", "base_value"], 2, false⟩
  | dropRate => ⟨["base_rate"], 3, false⟩
  | expCurve => ⟨["level"], 3, false⟩
  | gachaRate => ⟨["rarity"], 3, false⟩
  | between => ⟨["value", "bounds"], 0, false⟩

/-- What a function computes; optional arguments are filled in, and misfits are a fault. -/
def apply : Builtin → List Value → Except Failure Value
  -- Arguments that fit the signature always meet a case of their own.
  | sum, vs | statTotal, vs => Aggregate.sum vs
  | average, vs => Aggregate.average vs
  | min, vs => Aggregate.least vs
  | max, vs => Aggregate.greatest vs
  | count, vs => Aggregate.count vs
  | counta, vs => Aggregate.countFilled vs
  | round, [v] => Rounding.round v (.whole 0)
  | round, [v, d] => Rounding.round v d
  | ceiling, [v] => Rounding.ceiling v
  | floor, [v] => Rounding.floor v
  | abs, [v] => Rounding.absolute v
  | sqrt, [v] => Rounding.squareRoot v
  | power, [b, e] => Rounding.power b e
  | median, vs => Statistics.median vs
  | mode, vs => Statistics.mode vs
  | stdev, vs => Statistics.sampleDeviation vs
  | stdevp, vs => Statistics.deviation vs
  | var, vs => Statistics.sampleVariance vs
  | varp, vs => Statistics.variance vs
  | ifElse, [c] => Logic.choose c (.truth true) (.truth false)
  | ifElse, [c, t] => Logic.choose c t (.truth false)
  | ifElse, [c, t, f] => Logic.choose c t f
  | and, vs => Logic.all vs
  | or, vs => Logic.any vs
  | not, [v] => Logic.negate v
  | concatenate, vs => Textual.concatenate vs
  | left, [s] => Textual.left s (.whole 1)
  | left, [s, n] => Textual.left s n
  | right, [s] => Textual.right s (.whole 1)
  | right, [s, n] => Textual.right s n
  | mid, [s, i] => Textual.middle s i (.whole 0)
  | mid, [s, i, n] => Textual.middle s i n
  | upper, [s] => Textual.upper s
  | lower, [s] => Textual.lower s
  | len, [s] => Textual.length s
  | damageCalc, [a, d] => Game.damage a d
  | rarityBonus, [r] => Game.rarityBonus r
  | statScale, l :: b :: more =>
    match more with
    | [] => Game.statScale l b .blank .blank
    | [g] => Game.statScale l b g .blank
    | [g, c] => Game.statScale l b g c
    | _ => .error (.fault .mismatch)
  | dropRate, b :: more =>
    match more with
    | [] => Game.dropRate b .blank .blank .blank
    | [l] => Game.dropRate b l .blank .blank
    | [l, e] => Game.dropRate b l e .blank
    | [l, e, p] => Game.dropRate b l e p
    | _ => .error (.fault .mismatch)
  | expCurve, l :: more =>
    match more with
    | [] => Game.experience l .blank .blank .blank
    | [b] => Game.experience l b .blank .blank
    | [b, f] => Game.experience l b f .blank
    | [b, f, e] => Game.experience l b f e
    | _ => .error (.fault .mismatch)
  | gachaRate, t :: more =>
    match more with
    | [] => Game.drawRate t .blank .blank .blank
    | [p] => Game.drawRate t p .blank .blank
    | [p, b] => Game.drawRate t p b .blank
    | [p, b, h] => Game.drawRate t p b h
    | _ => .error (.fault .mismatch)
  | between, [v, b] => Game.isBetween v b
  | _, _ => .error (.fault .mismatch)

end Builtin
end Spreadsheet
