import Spreadsheet.Number.Basic
import Spreadsheet.Value.Foreign

/-! The values that cells hold and formulas compute. -/

namespace Spreadsheet

/-- A value of a cell or of a formula. -/
inductive Value where
  /-- Nothing at all. -/
  | blank
  /-- A truth value. -/
  | truth (b : Bool)
  /-- A number. -/
  | number (n : Number)
  /-- A text. -/
  | text (s : String)
  /-- A date with a time, and perhaps with an offset. -/
  | moment (m : Moment)
  /-- A date without a time. -/
  | day (d : Date)
  /-- The values of an area, or of a list inside one. -/
  | list (items : List Value)
  /-- A value that formulas pass on but do not compute with. -/
  | foreign (f : Foreign)
  deriving Inhabited

namespace Value

/-- A whole number as a value. -/
abbrev whole (n : Int) : Value := .number (.whole n)

/-- A double as a value. -/
abbrev float (x : Float) : Value := .number (.float x)

/-- A list value. -/
def isList : Value → Bool
  -- Only the constructor matters.
  | list _ => true
  | _ => false

mutual
/-- The values in a value that are no lists, in order. -/
def leaves : Value → List Value
  -- A list gives the leaves of its items, anything else is a leaf.
  | list items => leavesOfAll items
  | v => [v]

/-- The values in a list of values that are no lists, in order. -/
def leavesOfAll : List Value → List Value
  -- Item by item.
  | [] => []
  | v :: rest => leaves v ++ leavesOfAll rest
end

mutual
/-- The value with origins seen from the list in which it stands at a place. -/
def under (place : Nat) : Value → Value
  -- Whatever stands in a list stands under the same place.
  | number n => number (n.under place)
  | list items => list (allUnder place items)
  | foreign (.numeral n) => foreign (.numeral (n.under place))
  | v => v

/-- Values under one place. -/
def allUnder (place : Nat) : List Value → List Value
  -- Item by item.
  | [] => []
  | v :: rest => under place v :: allUnder place rest
end

/-- Values that were computed one by one, told apart by their places even where they equal nothing. -/
def apart (vs : List Value) : List Value :=
  -- The first place is zero.
  vs.mapIdx under

/-- The text of an invalid argument. -/
def invalid : Value := .text "#VALUE!"

/-- The text of a result that is no number. -/
def outOfRange : Value := .text "#NUM!"

/-- What a text starts with that stands for a failed formula. -/
def errorMark : String := "#ERROR: "

/-- A text that stands for a failure: one of the two marks, or a failed formula. -/
def isError : Value → Bool
  -- Other values never stand for failures.
  | text s => s == "#VALUE!" || s == "#NUM!" || errorMark.toList.isPrefixOf s.toList
  | _ => false

mutual
/-- A value as messages show it. -/
def describe : Value → List Char
  -- Texts are quoted; lists have brackets.
  | blank => "None".toList
  | truth b => if b then "True".toList else "False".toList
  | number (.whole n) => Text.intDigits n
  | number (.float x) => (Double.text x).toList
  | number (.nan _) => (Double.text Double.nan).toList
  | text s => (Text.quoted s).toList
  | moment m => applied "datetime.datetime" (m.date.parts ++ m.time.parts ++ m.zoneParts)
  | day d => applied "datetime.date" d.parts
  | list items => '[' :: joinWith [',', ' '] (describeAll items) ++ [']']
  | foreign f => f.chars

/-- Values as messages show them. -/
def describeAll : List Value → List (List Char)
  -- Each on its own.
  | [] => []
  | v :: rest => describe v :: describeAll rest
end

/-- A value shown alone: texts without quotes, dates and times as they are written. -/
def plain : Value → List Char
  -- Inside a list every value is described instead.
  | text s => s.toList
  | moment m => m.chars ' '
  | day d => d.chars
  | foreign f => f.plain
  | v => describe v

/-- The details of a failure as one text: nothing, one value plainly, or several in parentheses. -/
def details : List Value → String
  -- Several values are described.
  | [] => ""
  | [v] => String.ofList v.plain
  | vs => String.ofList ('(' :: joinWith [',', ' '] (describeAll vs) ++ [')'])

end Value
end Spreadsheet
