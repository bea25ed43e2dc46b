import Spreadsheet.Fault
import Spreadsheet.Value.Basic

/-! Why a formula fails, and the wording of each failure. -/

namespace Spreadsheet

/-- The kinds of failures that belong to formulas. -/
inductive ErrorKind where
  /-- No more is known than that a formula failed. -/
  | formula
  /-- The text does not fall into tokens. -/
  | lex
  /-- The tokens make no expression, or a reference names no cell. -/
  | parse
  /-- A value does not convert. -/
  | coercion
  /-- No function has the name. -/
  | unknownFunction
  /-- The arguments do not fit the function. -/
  | functionArgument
  /-- A division by zero. -/
  | divisionByZero
  /-- A fault inside a function. -/
  | numeric
  /-- A formula reads itself. -/
  | circularReference
  /-- A list stands where it may not. -/
  | invalidRangeUsage
  /-- Formulas read each other too deeply. -/
  | evaluationDepth
  deriving DecidableEq, Repr

/-- The name of a kind, shown where a failure has no message. -/
def ErrorKind.name : ErrorKind → String
  -- All names end alike.
  | formula => "FormulaError"
  | lex => "LexError"
  | parse => "ParseError"
  | coercion => "CoercionError"
  | unknownFunction => "UnknownFunctionError"
  | functionArgument => "FunctionArgumentError"
  | divisionByZero => "DivisionByZeroError"
  | numeric => "NumericError"
  | circularReference => "CircularReferenceError"
  | invalidRangeUsage => "InvalidRangeUsageError"
  | evaluationDepth => "EvaluationDepthError"

/-- Why the arguments of a call do not fit the function. -/
inductive ArgumentProblem where
  /-- A parameter has no argument. -/
  | missing (parameter : String)
  /-- There are more arguments than parameters. -/
  | tooMany
  deriving DecidableEq, Repr

/-- The wording of a problem with arguments. -/
def ArgumentProblem.message : ArgumentProblem → String
  -- The first parameter without an argument is named.
  | missing parameter => "missing a required argument: '" ++ parameter ++ "'"
  | tooMany => "too many positional arguments"

/-- A cause of failure that belongs to formulas. -/
inductive FormulaError where
  /-- A character that starts no token. -/
  | unexpectedCharacter (c : Char)
  /-- A number with a second point, up to and with that point. -/
  | secondPoint (number : String)
  /-- A formula that stops where an operand is due. -/
  | unexpectedEnd
  /-- A closing parenthesis that nothing opened. -/
  | unmatchedClosing
  /-- A token that does not fit where it stands. -/
  | unexpectedToken (text : String)
  /-- A parenthesis that is not closed. -/
  | closingExpected
  /-- A function name without an argument list. -/
  | openingExpected (name : String)
  /-- An argument list that is not closed. -/
  | argumentsUnclosed
  /-- A text that names no cell. -/
  | invalidReference (text : String)
  /-- Letters that name no column. -/
  | invalidColumn (letters : String)
  /-- A value outside the values of formulas. -/
  | unknownType (shown : String)
  /-- A value that cannot become a number. -/
  | notNumber (shown : String)
  /-- A value that cannot become a text. -/
  | notText (shown : String)
  /-- A name that no function has. -/
  | unknownFunction (name : String)
  /-- Arguments that do not fit the function. -/
  | badArguments (name : String) (problem : ArgumentProblem)
  /-- A division by zero in an operator. -/
  | divisionByZero
  /-- A fault inside a function. -/
  | numeric (name : String) (fault : Fault)
  /-- A formula that reads itself along this path. -/
  | circular (path : List String)
  /-- A list where one value is needed. -/
  | listInContext
  /-- A list where a text is needed. -/
  | listAsText
  /-- A list as the result of a formula. -/
  | listAlone
  /-- A cell that lies deeper than the limit. -/
  | tooDeep (limit : Int) (cell : String)
  /-- A failure of the given kind with a message of its own. -/
  | stated (kind : ErrorKind) (text : String)
  deriving DecidableEq, Repr

namespace FormulaError

/-- The kind that a cause belongs to. -/
def kind : FormulaError → ErrorKind
  -- Causes from one stage of evaluation share a kind.
  | unexpectedCharacter _ | secondPoint _ => .lex
  | unexpectedEnd | unmatchedClosing | unexpectedToken _ | closingExpected | openingExpected _
  | argumentsUnclosed | invalidReference _ | invalidColumn _ => .parse
  | unknownType _ | notNumber _ | notText _ => .coercion
  | unknownFunction _ => .unknownFunction
  | badArguments _ _ => .functionArgument
  | divisionByZero => .divisionByZero
  | numeric _ _ => .numeric
  | circular _ => .circularReference
  | listInContext | listAsText | listAlone => .invalidRangeUsage
  | tooDeep _ _ => .evaluationDepth
  | stated kind _ => kind

/-- The wording of a cause. -/
def message : FormulaError → String
  -- Texts of the formula are shown as they are.
  | unexpectedCharacter c => "Unexpected character: " ++ String.ofList [c]
  | secondPoint number => "Invalid number '" ++ number ++ "': multiple decimal points"
  | unexpectedEnd => "Unexpected end of formula"
  | unmatchedClosing => "Unmatched closing parenthesis ')'"
  | unexpectedToken text => "Unexpected token: " ++ text
  | closingExpected => "Expected ')'"
  | openingExpected name => "Expected '(' after function " ++ name
  | argumentsUnclosed => "Expected ')' after function arguments"
  | invalidReference text => "Invalid cell reference: " ++ text
  | invalidColumn letters => "Invalid column: " ++ letters
  | unknownType shown => "Unknown value type: " ++ shown
  | notNumber shown => "Cannot convert " ++ shown ++ " to number"
  | notText shown => "Cannot convert " ++ shown ++ " to text"
  | unknownFunction name => "Unknown function: " ++ name
  | badArguments name problem => "Invalid arguments for " ++ name ++ ": " ++ problem.message
  | divisionByZero => "Division by zero"
  | numeric name fault => "Numeric error in " ++ name ++ ": " ++ fault.message
  | circular path => "Circular reference detected: " ++ String.intercalate " -> " path
  | listInContext => "Cannot use range in this context"
  | listAsText => "Cannot convert range to text"
  | listAlone => "Range cannot be used as a standalone expression"
  | tooDeep limit cell =>
    "Maximum evaluation depth of " ++ Text.ofInt limit ++ " exceeded at " ++ cell
  | stated _ text => text

/-- The text that stands in a cell for a failed formula. -/
def shown (e : FormulaError) : String :=
  -- A failure without a message shows its kind.
  Value.errorMark ++ if e.message = "" then e.kind.name else e.message

end FormulaError

/-- Why a computation fails. -/
inductive Failure where
  /-- A failure that belongs to formulas. -/
  | formula (e : FormulaError)
  /-- A failure that formulas do not know. -/
  | fault (f : Fault)
  deriving DecidableEq, Repr

/-- A fault of arithmetic is a failure of whatever computes with it. -/
instance : MonadLift (Except Fault) (Except Failure) where
  monadLift := Except.mapError .fault

end Spreadsheet
