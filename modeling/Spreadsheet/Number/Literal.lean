import Spreadsheet.Fault
import Spreadsheet.Number.Double
import Spreadsheet.Text.Blank
import Spreadsheet.Text.Digit

/-! Numbers read from text: the longest numeric prefix, and whole texts that are one number. -/

namespace Spreadsheet.Literal

/-- The value of a run of decimal digits of any script. -/
def digitsValue (cs : List Char) : Nat :=
  -- Each digit shifts what was read before by one place.
  cs.foldl (fun value c => value * 10 + (Text.digitValue? c).getD 0) 0

/-- The leading decimal digits of a text, and what follows them. -/
def digits (cs : List Char) : List Char × List Char :=
  -- Digits of any script count.
  (cs.takeWhile Text.isDecimal, cs.dropWhile Text.isDecimal)

/-- An optional sign, and what follows it. -/
def sign : List Char → List Char × List Char
  -- A missing sign is the empty text.
  | '+' :: rest => (['+'], rest)
  | '-' :: rest => (['-'], rest)
  | cs => ([], cs)

/-- The digits around the point: at least one digit before it, or one directly behind it. -/
def mantissa? (cs : List Char) : Option (List Char × List Char × List Char) :=
  -- Digits before the point may stand alone, and a point behind them needs none after it.
  match digits cs with
  | ([], '.' :: rest) =>
    match digits rest with
    | ([], _) => none
    | (after, rest) => some ([], after, rest)
  | ([], _) => none
  | (before, '.' :: rest) => let (after, rest) := digits rest; some (before, after, rest)
  | (before, rest) => some (before, [], rest)

/-- The exponent behind an `e`; without a digit there is none and nothing is consumed. -/
def exponent (cs : List Char) : Int × List Char :=
  -- The letter and the sign belong to the number only if a digit follows.
  match cs with
  | c :: rest =>
    if c = 'e' || c = 'E' then
      let (mark, rest) := sign rest
      match digits rest with
      | ([], _) => (0, cs)
      | (ds, rest) =>
        let size : Int := digitsValue ds
        (if mark = ['-'] then -size else size, rest)
    else (0, cs)
  | [] => (0, cs)

/-- A number at the start of a text: the double it stands for and what follows it. -/
def unsigned? (negative : Bool) (cs : List Char) : Option (Float × List Char) :=
  -- Digits behind the point lower the exponent by their count.
  (mantissa? cs).map fun (before, after, rest) =>
    let (power, rest) := exponent rest
    (Double.ofDecimal negative (digitsValue (before ++ after)) (power - after.length), rest)

/-- A signed number at the start of a text. -/
def signed? (cs : List Char) : Option (Float × List Char) :=
  -- The sign is kept for zero too.
  let (mark, rest) := sign cs
  unsigned? (mark = ['-']) rest

/--
The number that a text starts with, behind blanks. No number can be read behind an information
separator, although it is blank.
-/
def leading? (s : String) : Except Fault (Option Float) :=
  -- The fault quotes the blanks and the number, and leaves out what follows.
  let cs := s.toList
  let blanks := cs.takeWhile Text.isBlank
  match signed? (cs.dropWhile Text.isBlank) with
  | none => .ok none
  | some (x, rest) =>
    if blanks.any Text.isSeparator then
      .error (.notFloat (String.ofList (cs.take (cs.length - rest.length))))
    else .ok (some x)

/-- Cuts off the blanks around a number; information separators are not cut off. -/
def unframed (s : String) : List Char :=
  -- What is left has to be a number from end to end.
  Text.trimBy (fun c => Text.isBlank c && !Text.isSeparator c) s.toList

/-- Removes the underscores between digits; any other underscore spoils the text. -/
def withoutMarks? : List Char → Option (List Char)
  -- An underscore is seen together with the two digits around it.
  | [] => some []
  | '_' :: _ => none
  | c :: '_' :: d :: rest =>
    if Text.isDecimal c && Text.isDecimal d then (withoutMarks? (d :: rest)).map (c :: ·) else none
  | c :: rest => (withoutMarks? rest).map (c :: ·)

/-- The names of the doubles that are no numbers, in any case of letters. -/
def special? (negative : Bool) (cs : List Char) : Option Float :=
  -- A NaN has no sign.
  match String.ofList (cs.map Char.toLower) with
  | "inf" | "infinity" => some (if negative then -1.0 / 0.0 else 1.0 / 0.0)
  | "nan" => some Double.nan
  | _ => none

/-- A text that is one double, blanks around it and underscores between its digits aside. -/
def float (s : String) : Except Fault Float :=
  -- Nothing may follow the number.
  let whole := do
    let cs ← withoutMarks? (unframed s)
    let (mark, rest) := sign cs
    match special? (mark = ['-']) rest with
    | some x => some x
    | none =>
      match unsigned? (mark = ['-']) rest with
      | some (x, []) => some x
      | _ => none
  match whole with
  | some x => .ok x
  | none => .error (.notFloat s)

/-- The digits and underscores at the start of a text, and what follows them. -/
def markedDigits (cs : List Char) : List Char × List Char :=
  -- The digits are counted before anything behind them is looked at.
  let inside := fun c => Text.isDecimal c || c = '_'
  (cs.takeWhile inside, cs.dropWhile inside)

/-- A text that is one whole number, blanks around it and underscores between its digits aside. -/
def whole (s : String) : Except Fault Int :=
  -- Too many digits are a fault of their own, whatever stands behind them.
  let (mark, rest) := sign (unframed s)
  let (marked, rest) := markedDigits rest
  match withoutMarks? marked with
  | none | some [] => .error (.notWhole s)
  | some ds =>
    if digitLimit < ds.length then .error (.tooLongToRead ds.length)
    else if rest ≠ [] then .error (.notWhole s)
    else
      let value : Int := digitsValue ds
      .ok (if mark = ['-'] then -value else value)

end Spreadsheet.Literal
