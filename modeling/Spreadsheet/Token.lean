/-! The tokens of a formula. -/

namespace Spreadsheet

/-- The kinds of tokens. -/
inductive TokenKind where
  /-- A number without a sign. -/
  | number
  /-- A text literal. -/
  | string
  /-- One of the two truth values. -/
  | boolean
  /-- An operator, of one or two characters. -/
  | operator
  /-- An opening parenthesis. -/
  | opening
  /-- A closing parenthesis. -/
  | closing
  /-- The comma between arguments. -/
  | comma
  /-- A reference to a cell. -/
  | cell
  /-- A reference to an area, its two ends around a colon. -/
  | area
  /-- The name of a function. -/
  | function
  deriving DecidableEq, Repr

/-- A token: its kind and its text, names in upper case and text literals without their quotes. -/
structure Token where
  kind : TokenKind
  text : String
  deriving DecidableEq, Repr

end Spreadsheet
