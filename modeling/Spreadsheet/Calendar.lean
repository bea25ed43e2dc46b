import Spreadsheet.Fault
import Spreadsheet.Number.Double
import Spreadsheet.Text.Decimal
import Spreadsheet.Text.Digit

/-! Dates, times of day, moments and durations: their serial numbers and their texts. -/

namespace Spreadsheet

/-- A day of the Gregorian calendar, extended to the year one. -/
structure Date where
  year : Nat
  month : Nat
  day : Nat
  deriving DecidableEq, Repr

/-- A time within a day. -/
structure TimeOfDay where
  hour : Nat
  minute : Nat
  second : Nat
  microsecond : Nat
  deriving DecidableEq, Repr

/-- A length of time in microseconds. -/
structure Duration where
  microseconds : Int
  deriving DecidableEq, Repr

/-- A date with a time of day, and how far that is ahead of universal time if it is known. -/
structure Moment where
  date : Date
  time : TimeOfDay
  /-- Moments without an offset and moments with one have nothing in common. -/
  offset : Option Duration
  deriving DecidableEq, Repr

/-- The day from which serial numbers count. -/
inductive Epoch where
  /-- The last day but one of 1899. -/
  | from1900
  /-- The first day of 1904. -/
  | from1904
  deriving DecidableEq, Repr

/-- A number with zeros in front up to a width. -/
def padded (width n : Nat) : List Char :=
  -- Longer numbers stay as they are.
  let digits := Text.natDigits n
  List.replicate (width - digits.length) '0' ++ digits

/-- Parts of a text with a separator between them. -/
def joinWith (separator : List Char) : List (List Char) → List Char
  -- There is no separator before the first part.
  | [] => []
  | [part] => part
  | part :: rest => part ++ separator ++ joinWith separator rest

namespace Date

/-- A year with a leap day. -/
def isLeap (year : Nat) : Bool :=
  -- Centuries have one only every four hundred years.
  year % 4 == 0 && (year % 100 != 0 || year % 400 == 0)

/-- The days of a year before each month. -/
def daysBefore (year month : Nat) : Nat :=
  -- The leap day counts from March on.
  [0, 31, 59, 90, 120, 151, 181, 212, 243, 273, 304, 334].getD (month - 1) 0 +
    if 2 < month && isLeap year then 1 else 0

/-- The number of a day, one for the first day of the year one. -/
def number (date : Date) : Int :=
  -- Whole years, whole months, days.
  let past := date.year - 1
  (365 * past + past / 4 - past / 100 + past / 400 + daysBefore date.year date.month + date.day : Nat)

/-- Year, month and day with hyphens. -/
def chars (date : Date) : List Char :=
  -- The year has four digits.
  joinWith ['-'] [padded 4 date.year, padded 2 date.month, padded 2 date.day]

end Date

namespace TimeOfDay

/-- The first moment of a day. -/
def midnight : TimeOfDay := ⟨0, 0, 0, 0⟩

/-- The time as a count of microseconds. -/
def microseconds (time : TimeOfDay) : Nat :=
  -- Every part is below the next larger unit.
  (time.hour * 3600 + time.minute * 60 + time.second) * 1000000 + time.microsecond

/-- The share of the day that has passed. -/
def share (time : TimeOfDay) : Float :=
  -- Seconds and microseconds are added as doubles before the division.
  let seconds := Double.nearest false (time.hour * 3600 + time.minute * 60 + time.second) 1
  (seconds + Double.nearest false time.microsecond 1000000) / 86400.0

/-- Hours, minutes and seconds with colons. -/
def clockChars (time : TimeOfDay) : List Char :=
  -- Each part has two digits.
  joinWith [':'] [padded 2 time.hour, padded 2 time.minute, padded 2 time.second]

/-- The time to the microsecond, shown only if they are not zero. -/
def chars (time : TimeOfDay) : List Char :=
  -- Six places or none.
  time.clockChars ++ if time.microsecond = 0 then [] else '.' :: padded 6 time.microsecond

/-- The time to the millisecond, shown only if there are microseconds. -/
def shortChars (time : TimeOfDay) : List Char :=
  -- What lies below a millisecond is cut off, so three zeros can show.
  time.clockChars ++ if time.microsecond = 0 then [] else '.' :: padded 3 (time.microsecond / 1000)

end TimeOfDay

namespace Epoch

/-- The day that has the serial number zero. -/
def start : Epoch → Date
  -- Counting from the end of 1899 keeps later serial numbers in step with the usual ones.
  | from1900 => ⟨1899, 12, 30⟩
  | from1904 => ⟨1904, 1, 1⟩

/-- The whole serial number of a day. -/
def serialDay (epoch : Epoch) (date : Date) : Int :=
  -- The older epoch counts a leap day in 1900 that never was; days before it are one lower.
  let days := date.number - epoch.start.number
  match epoch with
  | from1900 => if 0 < days ∧ days ≤ 60 then days - 1 else days
  | from1904 => days

/-- The serial number of a time of a day: days, and the share of the last day as a fraction. -/
def serialAt (epoch : Epoch) (date : Date) (time : TimeOfDay) : Float :=
  -- The days are exact as a double before the fraction is added.
  let days := epoch.serialDay date
  Double.nearest (days < 0) days.natAbs 1 + time.share

/-- The serial number of a moment; one with an offset has none. -/
def serial (epoch : Epoch) (moment : Moment) : Except Fault Float :=
  -- The epochs have no offset, and are not subtracted from what has one.
  match moment.offset with
  | none => .ok (epoch.serialAt moment.date moment.time)
  | some _ => .error .zoned

end Epoch

namespace Duration

/-- The whole days of a duration, rounded down. -/
def days (d : Duration) : Int :=
  -- A negative duration starts with one day too many, taken back by what follows.
  Int.fdiv d.microseconds 86400000000

/-- The seconds beyond the whole days. -/
def seconds (d : Duration) : Nat :=
  -- Never negative.
  ((Int.fmod d.microseconds 86400000000) / 1000000).toNat

/-- The microseconds beyond the whole seconds. -/
def rest (d : Duration) : Nat :=
  -- Never negative.
  (Int.fmod d.microseconds 1000000).toNat

/-- Days where there are any, then hours, minutes and seconds, then microseconds where needed. -/
def chars (d : Duration) : List Char :=
  -- Only the hours are not padded.
  let dayPart :=
    if d.days = 0 then []
    else Text.intDigits d.days ++
      (if d.days.natAbs = 1 then " day, ".toList else " days, ".toList)
  let clock := joinWith [':']
    [Text.natDigits (d.seconds / 3600), padded 2 (d.seconds / 60 % 60), padded 2 (d.seconds % 60)]
  dayPart ++ clock ++ if d.rest = 0 then [] else '.' :: padded 6 d.rest

/-- A duration as an offset: its sign, hours and minutes, and what is smaller if it is not zero. -/
def offsetChars (d : Duration) : List Char :=
  -- Microseconds bring the seconds with them.
  let size := d.microseconds.natAbs
  let seconds := size / 1000000
  let clock := joinWith [':'] [padded 2 (seconds / 3600), padded 2 (seconds / 60 % 60)]
  let micros := if size % 1000000 = 0 then [] else '.' :: padded 6 (size % 1000000)
  let rest := if size % 60000000 = 0 then [] else ':' :: padded 2 (seconds % 60) ++ micros
  (if d.microseconds < 0 then '-' else '+') :: clock ++ rest

end Duration

namespace Moment

/-- The start of a day. -/
def ofDate (date : Date) : Moment := ⟨date, .midnight, none⟩

/-- A moment as a count of microseconds, its offset aside. -/
def microseconds (moment : Moment) : Int :=
  -- Days first, then the parts of the time.
  moment.date.number * 86400000000 + moment.time.microseconds

/-- Two moments are the same: as they are written, or in universal time if both have an offset. -/
def same (m n : Moment) : Bool :=
  -- A moment with an offset is never the same as one without.
  match m.offset, n.offset with
  | none, none => m == n
  | some d, some e => m.microseconds - d.microseconds == n.microseconds - e.microseconds
  | _, _ => false

/-- The offset of a moment behind its time. -/
def offsetChars (moment : Moment) : List Char :=
  -- Without an offset nothing is shown.
  moment.offset.elim [] Duration.offsetChars

/-- Date and time with a separator between them, to the microsecond. -/
def chars (separator : Char) (moment : Moment) : List Char :=
  -- Microseconds show only if they are not zero.
  moment.date.chars ++ separator :: (moment.time.chars ++ moment.offsetChars)

/-- Date and time with a separator between them, to the millisecond. -/
def shortChars (separator : Char) (moment : Moment) : List Char :=
  -- Milliseconds show only if the microseconds are not zero.
  moment.date.chars ++ separator :: (moment.time.shortChars ++ moment.offsetChars)

end Moment

end Spreadsheet
