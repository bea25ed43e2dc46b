import Spreadsheet.Number.Power
import Spreadsheet.Operator.Basic
import Spreadsheet.Value.Convert

/-! What the operators compute. -/

namespace Spreadsheet

namespace Value

/-- A value that is no list. -/
def scalar (v : Value) : Except Failure Value :=
  -- Lists are refused before they are looked at.
  if v.isList then .error (.formula .listInContext) else .ok v

/-- Two values of one type are the same. -/
def same : Value → Value → Bool
  -- A date with a time is never the same as one without.
  | blank, blank => true
  | truth a, truth b => a == b
  | number a, number b => a.same b
  | text s, text t => s == t
  | moment m, moment n => m.same n
  | day d, day e => d == e
  | _, _ => false

/-- Equality of values; values of different types are never equal. -/
def equal (left right : Value) : Except Failure Bool := do
  -- Lists are refused first, then values without a type.
  let left ← left.scalar
  let right ← right.scalar
  let leftType ← left.type
  let rightType ← right.type
  return leftType == rightType && left.same right

end Value

namespace BinaryOp

/-- An operation on the numbers that two values read as, the left one read first. -/
def onNumbers {α : Type} (operation : Number → Number → Except Fault α) (left right : Value) :
    Except Failure α := do
  -- Serial numbers of dates count from the usual epoch.
  let a ← left.toNumber .from1900
  let b ← right.toNumber .from1900
  (operation a b : Except Fault α)

/-- The quotient; the divisor is read and tested before the dividend is read. -/
def divide (left right : Value) : Except Failure Value := do
  -- Whatever reads as zero is no divisor.
  let divisor ← right.toNumber .from1900
  if divisor.isZero then throw (.formula .divisionByZero)
  let dividend ← left.toNumber .from1900
  return .number (← (dividend.div divisor : Except Fault Number))

/-- The power; a complex result is out of range, a negative power of zero divides by zero. -/
def raise (left right : Value) : Except Failure Value := do
  -- Other faults of the power remain what they are.
  let base ← left.toNumber .from1900
  let exponent ← right.toNumber .from1900
  match base.power exponent with
  | .ok (.real n) => return .number n
  | .ok (.complex _ _) => return .outOfRange
  | .error f =>
    if f.family = .zeroDivision then throw (.formula .divisionByZero) else throw (.fault f)

/-- The texts of two values joined. -/
def join (left right : Value) : Except Failure Value := do
  -- A side that is a list is refused before the other side is looked at.
  let first ← (← left.scalar).toText
  let second ← (← right.scalar).toText
  return .text (first ++ second)

/-- What an operator computes, faults of range included. -/
def compute (op : BinaryOp) (left right : Value) : Except Failure Value :=
  -- Comparisons other than equality are comparisons of numbers.
  match op with
  | eq => return .truth (← left.equal right)
  | ne => return .truth (!(← left.equal right))
  | lt => return .truth (← onNumbers (fun a b => .ok (a.below b)) left right)
  | gt => return .truth (← onNumbers (fun a b => .ok (b.below a)) left right)
  | le => return .truth (← onNumbers (fun a b => .ok (a.atMost b)) left right)
  | ge => return .truth (← onNumbers (fun a b => .ok (b.atMost a)) left right)
  | concat => join left right
  | add => return .number (← onNumbers Number.add left right)
  | sub => return .number (← onNumbers Number.sub left right)
  | mul => return .number (← onNumbers Number.mul left right)
  | div => divide left right
  | pow => raise left right

/-- What an operator gives: a result beyond the doubles becomes a text that says so. -/
def apply (op : BinaryOp) (left right : Value) : Except Failure Value :=
  -- All other failures stay failures.
  match op.compute left right with
  | .error (.fault f) => if f.family = .overflow then .ok .outOfRange else .error (.fault f)
  | result => result

end BinaryOp

namespace UnaryOp

/-- What a sign gives. -/
def apply (op : UnaryOp) (operand : Value) : Except Failure Value := do
  -- Both signs read the operand as a number.
  let n ← operand.toNumber .from1900
  match op with
  | plus => return .number n
  | minus => return .number n.neg

end UnaryOp
end Spreadsheet
