import Spreadsheet.Calendar
import Spreadsheet.Number.Layout
import Spreadsheet.Numeral.Basic

/-!
Values that a cell can hold although formulas have no use for them, and how messages describe them.
-/

namespace Spreadsheet

/-- A value that formulas pass on but do not compute with. -/
inductive Foreign where
  /-- A decimal number kept digit by digit. -/
  | numeral (n : Numeral)
  /-- A time of day without a date. -/
  | time (t : TimeOfDay)
  /-- A length of time. -/
  | duration (d : Duration)
  /-- A complex number by its two parts. -/
  | complex (re im : Float)

/-- A name applied to arguments, as messages show dates and times. -/
def applied (name : String) (arguments : List (List Char)) : List Char :=
  -- Arguments stand in parentheses, with a comma and a blank between them.
  name.toList ++ '(' :: joinWith [',', ' '] arguments ++ [')']

/-- The parts of a time that messages show: seconds and microseconds only if they matter. -/
def TimeOfDay.parts (time : TimeOfDay) : List (List Char) :=
  -- Microseconds bring the seconds with them.
  let all := [time.hour, time.minute, time.second, time.microsecond]
  let shown := if time.microsecond ≠ 0 then 4 else if time.second ≠ 0 then 3 else 2
  (all.take shown).map Text.natDigits

/-- The parts of a date that messages show. -/
def Date.parts (date : Date) : List (List Char) :=
  -- Always all three.
  [date.year, date.month, date.day].map Text.natDigits

/-- The parts of a duration that messages show, each with its unit; zero has none. -/
def Duration.parts (d : Duration) : List (List Char) :=
  -- Parts that are zero are left out.
  let part := fun (unit : String) (n : Int) =>
    if n = 0 then [] else [unit.toList ++ '=' :: Text.intDigits n]
  let shown := part "days" d.days ++ part "seconds" d.seconds ++ part "microseconds" d.rest
  if shown = [] then [['0']] else shown

/-- The offset of a moment as messages show it; without an offset there is nothing to show. -/
def Moment.zoneParts (moment : Moment) : List (List Char) :=
  -- Universal time has a name of its own.
  match moment.offset with
  | none => []
  | some d =>
    let zone :=
      if d.microseconds = 0 then "datetime.timezone.utc".toList
      else applied "datetime.timezone" [applied "datetime.timedelta" d.parts]
    ["tzinfo=".toList ++ zone]

/-- A complex number as messages show it: a real part of positive zero is left out. -/
def complexChars (re im : Float) : List Char :=
  -- The sign of the imaginary part joins the two.
  let imaginary := (Double.Layout.bare.text im).toList ++ ['j']
  if re == 0.0 && !Double.isNegative re then imaginary
  else
    let joint := if Double.isNegative im && !im.isNaN then [] else ['+']
    '(' :: (Double.Layout.bare.text re).toList ++ joint ++ imaginary ++ [')']

/-- A foreign value as messages show it. -/
def Foreign.chars : Foreign → List Char
  -- Numerals are quoted, complex numbers are not named.
  | numeral n => applied "Decimal" ['\'' :: n.chars ++ ['\'']]
  | time t => applied "datetime.time" t.parts
  | duration d => applied "datetime.timedelta" d.parts
  | complex re im => complexChars re im

/-- A foreign value shown alone. -/
def Foreign.plain : Foreign → List Char
  -- Everything is shown as it is written.
  | numeral n => n.chars
  | time t => t.chars
  | duration d => d.chars
  | complex re im => complexChars re im

end Spreadsheet
