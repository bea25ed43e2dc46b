import Spreadsheet.Text.Decimal
import Spreadsheet.Text.Quoted

/-! What can go wrong below the level of formulas: in arithmetic, and in reading and writing numbers. -/

namespace Spreadsheet

/-- The most decimal digits a whole number may have in text. -/
def digitLimit : Nat := 4300

/-- The families of faults. -/
inductive Fault.Family where
  /-- A value outside the domain of an operation. -/
  | value
  /-- A result outside the range of doubles. -/
  | overflow
  /-- A division by zero. -/
  | zeroDivision
  /-- Arguments of the wrong kind or number. -/
  | mismatch
  /-- A character that may not be stored. -/
  | character
  deriving DecidableEq, Repr

/-- A cause of failure that knows nothing of formulas. -/
inductive Fault where
  /-- A quotient by zero, of doubles or of whole numbers. -/
  | divisionByZero (floating : Bool)
  /-- Zero raised to a negative power. -/
  | zeroToNegative
  /-- A whole number beyond the range of doubles. -/
  | wholeTooLarge
  /-- A quotient of whole numbers beyond the range of doubles. -/
  | quotientTooLarge
  /-- A power beyond the range of doubles. -/
  | powerTooLarge
  /-- A complex power beyond the range of doubles. -/
  | complexPowerTooLarge
  /-- An infinity where a whole number is needed. -/
  | infinityToWhole
  /-- A NaN where a whole number is needed. -/
  | nanToWhole
  /-- The logarithm of a number that is not positive. -/
  | logarithmDomain
  /-- A text that is no whole number. -/
  | notWhole (text : String)
  /-- A text that is no double. -/
  | notFloat (text : String)
  /-- A whole number too long to write. -/
  | tooLongToWrite
  /-- A whole number too long to read, with its count of digits. -/
  | tooLongToRead (count : Nat)
  /-- A column left of the first one. -/
  | columnBelowFirst (column : Int)
  /-- A column right of the last one, counted from one. -/
  | columnBeyondLast (number : Int)
  /-- A worksheet cell above or left of the first one. -/
  | cellBeforeFirst
  /-- A text with a control character, which no worksheet stores. -/
  | controlCharacter
  /-- A value that no worksheet stores. -/
  | unstorable (shown : String)
  /-- A symbol that is no binary operator. -/
  | unknownBinary (symbol : String)
  /-- A symbol that is no unary operator. -/
  | unknownUnary (symbol : String)
  /-- A signaling numeral where a double is needed. -/
  | signalingToDouble
  /-- A function beside the built-in ones gave up for a reason of its own. -/
  | refused (family : Fault.Family) (message : String)
  /-- A moment with an offset where a serial number is needed. -/
  | zoned
  /-- An operation met arguments it has no rule for. -/
  | mismatch
  deriving DecidableEq, Repr

namespace Fault

/-- The family that a fault belongs to. -/
def family : Fault → Family
  -- Whatever is neither a range nor a zero nor a kind is a matter of the value.
  | divisionByZero _ | zeroToNegative => .zeroDivision
  | wholeTooLarge | quotientTooLarge | powerTooLarge | complexPowerTooLarge | infinityToWhole =>
    .overflow
  | zoned | mismatch => .mismatch
  | controlCharacter => .character
  | nanToWhole | logarithmDomain | notWhole _ | notFloat _ | tooLongToWrite | tooLongToRead _
  | columnBelowFirst _ | columnBeyondLast _ | cellBeforeFirst | unstorable _ | unknownBinary _
  | unknownUnary _ | signalingToDouble => .value
  | refused family _ => family

/-- The opening of both messages about the digit limit. -/
def limitMessage : String :=
  -- Reading adds the count between this and the advice.
  "Exceeds the limit (" ++ Text.ofInt digitLimit ++ " digits) for integer string conversion"

/-- The advice that ends both messages about the digit limit. -/
def limitAdvice : String := "; use sys.set_int_max_str_digits() to increase the limit"

/-- The wording of a fault. -/
def message : Fault → String
  -- The quotation of a text that is no whole number is cut at two hundred characters.
  | divisionByZero floating => if floating then "float division by zero" else "division by zero"
  | zeroToNegative => "0.0 cannot be raised to a negative power"
  | wholeTooLarge => "int too large to convert to float"
  | quotientTooLarge => "integer division result too large for a float"
  | powerTooLarge => "(34, 'Numerical result out of range')"
  | complexPowerTooLarge => "complex exponentiation"
  | infinityToWhole => "cannot convert float infinity to integer"
  | nanToWhole => "cannot convert float NaN to integer"
  | logarithmDomain => "math domain error"
  | notWhole text =>
    "invalid literal for int() with base 10: " ++ String.ofList ((Text.quoted text).toList.take 200)
  | notFloat text => "could not convert string to float: " ++ Text.quoted text
  | tooLongToWrite => limitMessage ++ limitAdvice
  | tooLongToRead count => limitMessage ++ ": value has " ++ Text.ofInt count ++ " digits" ++ limitAdvice
  | columnBelowFirst column => "Invalid column index: " ++ Text.ofInt column
  | columnBeyondLast number => "Invalid column index " ++ Text.ofInt number
  | cellBeforeFirst => "Row or column values must be at least 1"
  | controlCharacter => ""
  | unstorable shown => "Cannot convert " ++ shown ++ " to Excel"
  | unknownBinary symbol => "Unknown operator: " ++ symbol
  | unknownUnary symbol => "Unknown unary operator: " ++ symbol
  | signalingToDouble => "cannot convert signaling NaN to float"
  | refused _ text => text
  | zoned => "can't subtract offset-naive and offset-aware datetimes"
  | mismatch => ""

end Fault
end Spreadsheet
