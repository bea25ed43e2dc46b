import Spreadsheet.Number.Basic
import Spreadsheet.Operator.Basic
import Spreadsheet.Position

/-! Expressions: what a formula says once it is read. -/

namespace Spreadsheet

/-- An expression. -/
inductive Expr where
  /-- A number as written. -/
  | number (n : Number)
  /-- A text as written. -/
  | text (s : String)
  /-- A truth value as written. -/
  | truth (b : Bool)
  /-- The value of a cell. -/
  | cell (p : Position)
  /-- The values of an area. -/
  | area (a : Area)
  /-- An operator before its operand. -/
  | unary (op : UnaryOp) (operand : Expr)
  /-- An operator between its operands. -/
  | binary (op : BinaryOp) (left right : Expr)
  /-- A function applied to arguments. -/
  | call (name : String) (arguments : List Expr)
  deriving Inhabited

namespace Expr

mutual
/-- The ids of the cells that an expression reads, in the order of reading. -/
def references : Expr → List CellId
  -- An area stands for all of its cells.
  | number _ | text _ | truth _ => []
  | cell p => [p.id]
  | area a => a.ids
  | unary _ operand => references operand
  | binary _ left right => references left ++ references right
  | call _ arguments => referencesOfAll arguments

/-- The ids of the cells that some expressions read, in the order of reading. -/
def referencesOfAll : List Expr → List CellId
  -- Argument by argument.
  | [] => []
  | e :: rest => references e ++ referencesOfAll rest
end

end Expr
end Spreadsheet
