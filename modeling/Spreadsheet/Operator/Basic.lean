import Spreadsheet.Fault

/-! The operators of formulas: their symbols and how tightly they bind. -/

namespace Spreadsheet

/-- An operator before one operand. -/
inductive UnaryOp where
  /-- The operand as a number. -/
  | plus
  /-- The operand with the opposite sign. -/
  | minus
  deriving DecidableEq, Repr

/-- An operator between two operands. -/
inductive BinaryOp where
  /-- Equal values of one type. -/
  | eq
  /-- Anything else. -/
  | ne
  /-- Below. -/
  | lt
  /-- Above. -/
  | gt
  /-- At most. -/
  | le
  /-- At least. -/
  | ge
  /-- Texts joined. -/
  | concat
  /-- Sum. -/
  | add
  /-- Difference. -/
  | sub
  /-- Product. -/
  | mul
  /-- Quotient. -/
  | div
  /-- Power. -/
  | pow
  deriving DecidableEq, Repr

namespace UnaryOp

/-- The symbol of an operator before its operand. -/
def symbol : UnaryOp → String
  -- Both symbols are binary operators too.
  | plus => "+"
  | minus => "-"

/-- The operator with a symbol. -/
def ofSymbol? : String → Option UnaryOp
  -- There are two.
  | "+" => some plus
  | "-" => some minus
  | _ => none

/-- The operator with a symbol, a fault if there is none. -/
def ofSymbol (symbol : String) : Except Fault UnaryOp :=
  -- The fault shows the symbol.
  match ofSymbol? symbol with
  | some op => .ok op
  | none => .error (.unknownUnary symbol)

end UnaryOp

namespace BinaryOp

/-- The symbol of an operator between its operands. -/
def symbol : BinaryOp → String
  -- Three of the comparisons have two characters.
  | eq => "="
  | ne => "<>"
  | lt => "<"
  | gt => ">"
  | le => "<="
  | ge => ">="
  | concat => "&"
  | add => "+"
  | sub => "-"
  | mul => "*"
  | div => "/"
  | pow => "^"

/-- The operator with a symbol. -/
def ofSymbol? : String → Option BinaryOp
  -- Each symbol belongs to one operator.
  | "=" => some eq
  | "<>" => some ne
  | "<" => some lt
  | ">" => some gt
  | "<=" => some le
  | ">=" => some ge
  | "&" => some concat
  | "+" => some add
  | "-" => some sub
  | "*" => some mul
  | "/" => some div
  | "^" => some pow
  | _ => none

/-- The operator with a symbol, a fault if there is none. -/
def ofSymbol (symbol : String) : Except Fault BinaryOp :=
  -- The fault shows the symbol.
  match ofSymbol? symbol with
  | some op => .ok op
  | none => .error (.unknownBinary symbol)

/-- How tightly an operator binds, from the comparisons to the power. -/
def level : BinaryOp → Nat
  -- Operators of one level are read from left to right.
  | eq | ne | lt | gt | le | ge => 0
  | concat => 1
  | add | sub => 2
  | mul | div => 3
  | pow => 4

/-- The number of levels; what stands between operators binds tighter than all of them. -/
def levelCount : Nat := 5

/-- Every operator binds at one of the levels. -/
theorem level_lt (op : BinaryOp) : op.level < levelCount := by
  -- Each operator's level is a numeral.
  cases op <;> decide

/-- Reading an operator's symbol gives the operator. -/
@[simp] theorem ofSymbol?_symbol (op : BinaryOp) : ofSymbol? op.symbol = some op := by
  -- The symbols are distinct.
  cases op <;> rfl

end BinaryOp

/-- Reading an operator's symbol gives the operator. -/
@[simp] theorem UnaryOp.ofSymbol?_symbol (op : UnaryOp) : ofSymbol? op.symbol = some op := by
  -- The symbols are distinct.
  cases op <;> rfl

end Spreadsheet
