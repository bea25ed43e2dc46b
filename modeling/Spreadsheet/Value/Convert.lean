import Spreadsheet.Failure
import Spreadsheet.Number.Literal
import Spreadsheet.Text.Case

/-! Conversions of values to numbers, truth values and texts, each with rules of its own. -/

namespace Spreadsheet

/-- The types of values that formulas tell apart. -/
inductive ValueType where
  /-- No value. -/
  | null
  /-- A number. -/
  | number
  /-- A date, with or without a time. -/
  | date
  /-- A text. -/
  | text
  /-- A truth value. -/
  | boolean
  /-- A list. -/
  | array
  deriving DecidableEq, Repr

namespace Number

/-- A number as text: doubles that are whole are written without a point. -/
def text (n : Number) : Except Fault String :=
  -- Whole numbers beyond the digit limit are not written.
  match n.normalize with
  | .whole n =>
    if Nat.pow 10 digitLimit ≤ n.natAbs then .error .tooLongToWrite else .ok (Text.ofInt n)
  | .float x => .ok (Double.text x)
  | .nan _ => .ok (Double.text Double.nan)

end Number

namespace Value

/-- The type of a value. -/
def type : Value → Except Failure ValueType
  -- Foreign values have none.
  | blank => .ok .null
  | truth _ => .ok .boolean
  | number _ => .ok .number
  | text _ => .ok .text
  | moment _ | day _ => .ok .date
  | list _ => .ok .array
  | foreign f => .error (.formula (.unknownType (String.ofList f.chars)))

/-- A truth value as a number. -/
def ofTruth (b : Bool) : Number := .whole b.toNat

/-- The number that an operator reads from a value. -/
def toNumber (epoch : Epoch) : Value → Except Failure Number
  -- Nothing, and text without a number in front, count as zero; lists are refused.
  | blank => .ok (.whole 0)
  | truth b => .ok (ofTruth b)
  | number n => .ok n
  | text s => do
    match ← (Literal.leading? s : Except Fault _) with
    | some x => return .float x
    | none => return .whole 0
  | moment m => do return .float (← (epoch.serial m : Except Fault Float))
  | day d => .ok (.float (epoch.serialAt d .midnight))
  | list _ => .error (.formula .listInContext)
  | foreign f => .error (.formula (.notNumber (String.ofList f.chars)))

/-- The number that a function reads from an argument, if there is one. -/
def toNumber? (epoch : Epoch) : Value → Except Failure (Option Number)
  -- A list of one value reads as that value.
  | blank => .ok none
  | truth b => .ok (some (ofTruth b))
  | number n => .ok (some n)
  | text s => do return (← (Literal.leading? s : Except Fault _)).map .float
  | moment m => do return some (.float (← (epoch.serial m : Except Fault Float)))
  | day d => .ok (some (.float (epoch.serialAt d .midnight)))
  | list [v] => toNumber? epoch v
  | list _ => .ok none
  | foreign _ => .ok none

/-- The truth of a value. -/
def toTruth : Value → Bool
  -- Zero, nothing, the empty text and the empty list are false, and so is the word for it.
  | blank => false
  | truth b => b
  | number n => !n.isZero
  | text s =>
    let word := Text.lower s
    if word = "true" then true else if word = "false" then false else s ≠ ""
  | list [v] => toTruth v
  | list items => !items.isEmpty
  | moment _ | day _ | foreign _ => true

/-- The text of a value. -/
def toText : Value → Except Failure String
  -- A list of one value reads as that value; dates have a blank before the time.
  | blank => .ok ""
  | truth b => .ok (if b then "TRUE" else "FALSE")
  | number n => (n.text : Except Fault String)
  | text s => .ok s
  | moment m => .ok (String.ofList (m.shortChars ' '))
  | day d => .ok (String.ofList d.chars)
  | list [v] => toText v
  | list _ => .error (.formula .listAsText)
  | foreign f => .error (.formula (.notText (String.ofList f.chars)))

/-- The numbers among some values, in order. -/
def numbers (epoch : Epoch) : List Value → Except Failure (List Number)
  -- What does not read as a number is left out.
  | [] => .ok []
  | v :: rest => do
    let n ← toNumber? epoch v
    let ns ← numbers epoch rest
    return n.toList ++ ns

end Value
end Spreadsheet
