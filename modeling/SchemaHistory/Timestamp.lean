import SchemaHistory.Json.Printer

/-!
Points in time and their text.

A timestamp counts seconds since the start of 1970 and nanoseconds within the second. A leap second is
the last second of a minute with a thousand million nanoseconds or more; it is written as second sixty.
The text is a date and a time of day in the Gregorian calendar with three decimals, which are cut and not
rounded. Years with four digits are written plainly, all others with a sign and at least four digits.
-/

namespace SchemaHistory

/-- A point in time. -/
structure Timestamp where
  seconds : Int
  nanos : Nat
  deriving Repr, DecidableEq

/-- A day of the Gregorian calendar. -/
structure CalendarDay where
  year : Int
  month : Nat
  day : Nat
  deriving Repr, DecidableEq

/-- The calendar day that lies a number of days after the first of January 1970. Years are counted
from March, so that the leap day is the last of its year, in eras of four hundred years. -/
def CalendarDay.ofDays (days : Int) : CalendarDay :=
  let shifted := days + 719468
  let era := shifted.fdiv 146097
  let dayOfEra := (shifted.fmod 146097).toNat
  let yearOfEra := (dayOfEra - dayOfEra / 1460 + dayOfEra / 36524 - dayOfEra / 146096) / 365
  let dayOfYear := dayOfEra - (365 * yearOfEra + yearOfEra / 4 - yearOfEra / 100)
  let shiftedMonth := (5 * dayOfYear + 2) / 153
  let month := if shiftedMonth < 10 then shiftedMonth + 3 else shiftedMonth - 9
  { year := era * 400 + yearOfEra + (if month ≤ 2 then 1 else 0)
    month := month
    day := dayOfYear - (153 * shiftedMonth + 2) / 5 + 1 }

/-- A number with zeros in front up to a width. -/
def padded (width n : Nat) : List Char :=
  let digits := decimal n
  List.replicate (width - digits.length) '0' ++ digits

/-- A year, with a sign unless it has four digits or fewer and is not negative. -/
def yearText (year : Int) : List Char :=
  if 0 ≤ year ∧ year ≤ 9999 then padded 4 year.toNat
  else (if year < 0 then '-' else '+') :: padded 4 year.natAbs

namespace Timestamp

/-- The first and the last year that a timestamp may lie in. -/
def firstYear : Int := -262143

/-- The last year that a timestamp may have. -/
def lastYear : Int := 262142

/-- The days since 1970, and the second of the day. -/
def split (t : Timestamp) : Int × Nat := (t.seconds.fdiv 86400, (t.seconds.fmod 86400).toNat)

/-- Whether the year is in bounds, and the nanoseconds are those of a second or of a leap second. -/
def isValid (t : Timestamp) : Bool :=
  let year := (CalendarDay.ofDays t.split.1).year
  firstYear ≤ year && year ≤ lastYear &&
    (t.nanos < 1000000000 || (t.nanos < 2000000000 && t.split.2 % 60 == 59))

/-- The text of a timestamp. -/
def textChars (t : Timestamp) : List Char :=
  let (days, second) := t.split
  let date := CalendarDay.ofDays days
  let leap := t.nanos / 1000000000
  yearText date.year ++ '-' :: padded 2 date.month ++ '-' :: padded 2 date.day ++
    'T' :: padded 2 (second / 3600) ++ ':' :: padded 2 (second / 60 % 60) ++
    ':' :: padded 2 (second % 60 + leap) ++
    '.' :: padded 3 (t.nanos % 1000000000 / 1000000) ++ ['Z']

/-- The timestamp as text. -/
def text (t : Timestamp) : String := String.ofList t.textChars

end Timestamp

end SchemaHistory
