import Spreadsheet.Function.Argument

/-! Functions on text. -/

namespace Spreadsheet.Textual

/-- The texts of all values joined. -/
def concatenate (arguments : List Value) : Except Failure Value := do
  -- The first value without a text decides.
  let texts ← (Value.leavesOfAll arguments).mapM Value.toText
  return .text (String.join texts)

/-- The first characters of a text. -/
def left (text count : Value) : Except Failure Value := do
  -- The count is read before the text; one character is the default.
  let n ← Argument.size 1 count
  let s ← Argument.text text
  return .text (String.ofList (s.toList.take n))

/-- The last characters of a list; a start left of it counts from the end. -/
def tail (cs : List Char) (n : Nat) : List Char :=
  -- Twice the length leaves the whole list again.
  if n = 0 then []
  else if n ≤ cs.length then cs.drop (cs.length - n)
  else cs.drop (2 * cs.length - n)

/-- The last characters of a text. -/
def right (text count : Value) : Except Failure Value := do
  -- The text is read before the count; one character is the default.
  let s ← Argument.text text
  let n ← Argument.size 1 count
  return .text (String.ofList (tail s.toList n))

/-- A part of a text by the place of its first character, counted from one, and its length. -/
def middle (text start count : Value) : Except Failure Value := do
  -- Places before the first one count as the first one.
  let s ← Argument.text text
  let place ← Argument.size 1 start
  let n ← Argument.size 0 count
  return .text (String.ofList ((s.toList.drop (place - 1)).take n))

/-- A text in upper case. -/
def upper (text : Value) : Except Failure Value := do
  -- The text can become longer.
  return .text (Text.upper (← Argument.text text))

/-- A text in lower case. -/
def lower (text : Value) : Except Failure Value := do
  -- The text can become longer.
  return .text (Text.lower (← Argument.text text))

/-- The count of characters of a text. -/
def length (text : Value) : Except Failure Value := do
  -- Characters are code points.
  return .whole (← Argument.text text).length

end Spreadsheet.Textual
