import Spreadsheet.Expr
import Spreadsheet.Token.Lexer

/-!
Tokens read into expressions. Each level of operators is a chain of operands of the next level, read
from left to right; signs bind tighter than all of them.
-/

namespace Spreadsheet.Expr

/-- What is left of some tokens after at least one was taken. -/
abbrev Rest (ts : List Token) := { rest : List Token // rest.length < ts.length }

/-- What is left of some tokens after none or more were taken. -/
abbrev Remainder (ts : List Token) := { rest : List Token // rest.length ≤ ts.length }

/-- The number that a token's text stands for: a double if it has a point. -/
def literalNumber (text : String) : Except Fault Number :=
  -- Texts without a point are whole numbers or faults.
  if text.toList.contains '.' then (Literal.float text).map .float else (Literal.whole text).map .whole

/-- The area whose two ends stand around the first colon of a text. -/
def literalArea (text : String) : Except Failure Area := do
  -- Without a colon the far end is empty.
  let cs := text.toList
  let start ← Position.ofText (String.ofList (cs.takeWhile (· ≠ ':')))
  let finish ← Position.ofText (String.ofList ((cs.dropWhile (· ≠ ':')).drop 1))
  return ⟨start, finish⟩

/-- The binary operator of a level that a token stands for. -/
def operatorAt? (level : Nat) (token : Token) : Option BinaryOp :=
  -- Text literals that look like operators are none.
  if token.kind = .operator then
    (BinaryOp.ofSymbol? token.text).filter fun op => op.level = level
  else none

/-- The sign that a token stands for. -/
def signOf? (token : Token) : Option UnaryOp :=
  -- Only operator tokens are signs.
  if token.kind = .operator then UnaryOp.ofSymbol? token.text else none

mutual
/-- An expression of a level: a chain of operators, or a signed operand above the last level. -/
def chain (level : Nat) (ts : List Token) : Except Failure (Expr × Rest ts) :=
  -- The first operand belongs to the next level.
  if level < BinaryOp.levelCount then do
    let (left, ⟨rest, shorter⟩) ← chain (level + 1) ts
    let (e, ⟨rest, _⟩) ← chainFrom level left rest
    return (e, ⟨rest, by omega⟩)
  else signed ts
termination_by 8 * ts.length + (7 - min level 5)
decreasing_by all_goals simp only [BinaryOp.levelCount] at *; omega

/-- The rest of a chain whose first operands are already read. -/
def chainFrom (level : Nat) (left : Expr) (ts : List Token) :
    Except Failure (Expr × Remainder ts) :=
  -- The chain goes on as long as operators of its level follow.
  match ts with
  | [] => return (left, ⟨[], by simp⟩)
  | token :: after =>
    match operatorAt? level token with
    | none => return (left, ⟨token :: after, by simp⟩)
    | some op => do
      let (right, ⟨rest, shorter⟩) ← chain (level + 1) after
      let (e, ⟨rest, _⟩) ← chainFrom level (.binary op left right) rest
      return (e, ⟨rest, by simp only [List.length_cons]; omega⟩)
termination_by 8 * ts.length + 7
decreasing_by all_goals simp only [List.length_cons] at *; omega

/-- An operand with any number of signs before it. -/
def signed (ts : List Token) : Except Failure (Expr × Rest ts) :=
  -- Each sign applies to everything behind it.
  match ts with
  | [] => throw (.formula .unexpectedEnd)
  | token :: after =>
    match signOf? token with
    | none => primary (token :: after)
    | some op => do
      let (operand, ⟨rest, _⟩) ← signed after
      return (.unary op operand, ⟨rest, by simp only [List.length_cons]; omega⟩)
termination_by 8 * ts.length + 1
decreasing_by all_goals simp only [List.length_cons] at *; omega

/-- A literal, a reference, a call, or an expression in parentheses. -/
def primary (ts : List Token) : Except Failure (Expr × Rest ts) :=
  -- The kind of the first token decides.
  match ts with
  | [] => throw (.formula .unexpectedEnd)
  | token :: after =>
    match token.kind with
    | .number => do
      let n ← (literalNumber token.text : Except Fault Number)
      return (.number n, ⟨after, by simp⟩)
    | .string => return (.text token.text, ⟨after, by simp⟩)
    | .boolean => return (.truth (token.text = "TRUE"), ⟨after, by simp⟩)
    | .cell => do return (.cell (← Position.ofText token.text), ⟨after, by simp⟩)
    | .area => do return (.area (← literalArea token.text), ⟨after, by simp⟩)
    | .function => do
      let (arguments, ⟨rest, _⟩) ← argumentList token.text after
      return (.call token.text arguments, ⟨rest, by simp only [List.length_cons]; omega⟩)
    | .opening => do
      let (e, ⟨rest, shorter⟩) ← chain 0 after
      match rest, shorter with
      | ⟨.closing, _⟩ :: rest, shorter =>
        return (e, ⟨rest, by simp only [List.length_cons] at *; omega⟩)
      | _, _ => throw (.formula .closingExpected)
    | .closing | .comma | .operator => throw (.formula (.unexpectedToken token.text))
termination_by 8 * ts.length
decreasing_by all_goals simp only [List.length_cons] at *; omega

/-- The arguments of the function with this name, parentheses included. -/
def argumentList (name : String) (ts : List Token) : Except Failure (List Expr × Rest ts) :=
  -- The list may be empty.
  match ts with
  | ⟨.opening, _⟩ :: ⟨.closing, _⟩ :: rest =>
    return ([], ⟨rest, by simp only [List.length_cons]; omega⟩)
  | ⟨.opening, _⟩ :: after => do
    let (es, ⟨rest, shorter⟩) ← arguments after
    match rest, shorter with
    | ⟨.closing, _⟩ :: rest, shorter =>
      return (es, ⟨rest, by simp only [List.length_cons] at *; omega⟩)
    | _, _ => throw (.formula .argumentsUnclosed)
  | _ => throw (.formula (.openingExpected name))
termination_by 8 * ts.length + 1
decreasing_by all_goals simp only [List.length_cons] at *; omega

/-- One or more expressions with commas between them. -/
def arguments (ts : List Token) : Except Failure (List Expr × Rest ts) := do
  -- Another expression has to follow each comma.
  let (e, ⟨rest, shorter⟩) ← chain 0 ts
  match rest, shorter with
  | ⟨.comma, _⟩ :: after, shorter => do
    let (es, ⟨rest, _⟩) ← arguments after
    return (e :: es, ⟨rest, by simp only [List.length_cons] at *; omega⟩)
  | rest, shorter => return ([e], ⟨rest, shorter⟩)
termination_by 8 * ts.length + 8
decreasing_by
  · omega
  · simp only [List.length_cons] at *; omega
end

/-- The expression that some tokens make up. -/
def ofTokens (ts : List Token) : Except Failure Expr := do
  -- Nothing may be left over.
  let (e, ⟨rest, _⟩) ← chain 0 ts
  match rest with
  | [] => return e
  | token :: _ =>
    if token.kind = .closing then throw (.formula .unmatchedClosing)
    else throw (.formula (.unexpectedToken token.text))

/-- The expression that a formula's text stands for. -/
def ofFormula (formula : String) : Except Failure Expr := do
  -- The text is read into tokens first.
  let ts ← (Token.ofFormula formula).mapError Failure.formula
  ofTokens ts

end Spreadsheet.Expr
