/-!
# Dates and times

Instants are counted in microseconds from the first midnight of year 1 of the proleptic
Gregorian calendar, which ends with year 9999. A count of days is turned into a date by
whole cycles of 400, 100, 4 and 1 years, then by month lengths.
-/
namespace DebugLens

/-- A date and a time of day. -/
structure DateTime where
  /-- The year, from 1 to 9999. -/
  year : Nat
  /-- The month, from 1 to 12. -/
  month : Nat
  /-- The day of the month, from 1. -/
  day : Nat
  /-- The hour. -/
  hour : Nat
  /-- The minute. -/
  minute : Nat
  /-- The second. -/
  second : Nat
  /-- The microsecond. -/
  microsecond : Nat
deriving DecidableEq, Repr

namespace DateTime

/-- The last year of the calendar. -/
def lastYear : Nat := 9999

/-- Leap years are divisible by 4, and by 400 if they are divisible by 100. -/
def isLeapYear (year : Nat) : Bool := year % 4 = 0 && (year % 100 ≠ 0 || year % 400 = 0)

/-- The number of days in a year. -/
def daysInYear (year : Nat) : Nat := if isLeapYear year then 366 else 365

/-- The lengths of the months of a year. -/
def monthLengths (year : Nat) : List Nat :=
  [31, if isLeapYear year then 29 else 28, 31, 30, 31, 30, 31, 31, 30, 31, 30, 31]

/-- The number of days before the first day of a year. -/
def daysBeforeYear (year : Nat) : Nat :=
  (year - 1) * 365 + (year - 1) / 4 - (year - 1) / 100 + (year - 1) / 400

/-- The year that a day lies in, days being counted from 0 at the start of year 1. The last day
of a cycle of 400 or 4 years belongs to the last year of the cycle. -/
def yearOfDay (days : Nat) : Nat :=
  let in400 := days % 146097
  let centuries := min (in400 / 36524) 3
  let in100 := in400 - centuries * 36524
  let in4 := in100 % 1461
  let years := min (in4 / 365) 3
  days / 146097 * 400 + centuries * 100 + in100 / 1461 * 4 + years + 1

/-- The month and day of a day of the year, given the lengths of the months from `month` on. -/
def monthAndDay : List Nat → Nat → Nat → Nat × Nat
  | [], month, day => (month, day + 1)
  | length :: lengths, month, day =>
    if day < length then (month, day + 1) else monthAndDay lengths (month + 1) (day - length)

/-- The instant that lies a number of microseconds after the start of the calendar. -/
def ofMicroseconds? (microseconds : Nat) : Option DateTime :=
  let seconds := microseconds / 1000000
  let days := seconds / 86400
  let year := yearOfDay days
  if year > lastYear then none
  else
    let (month, day) := monthAndDay (monthLengths year) 1 (days - daysBeforeYear year)
    some {
      year, month, day
      hour := seconds / 3600 % 24
      minute := seconds / 60 % 60
      second := seconds % 60
      microsecond := microseconds % 1000000 }

/-- The fields in order; the microsecond is left out when it is zero, and then also the second
when it is zero. -/
def shownFields (instant : DateTime) : List Nat :=
  [instant.year, instant.month, instant.day, instant.hour, instant.minute] ++
    if instant.microsecond ≠ 0 then [instant.second, instant.microsecond]
    else if instant.second ≠ 0 then [instant.second]
    else []

/-- The text of an instant in a list of constants. -/
def text (instant : DateTime) : String :=
  "datetime.datetime(" ++ ", ".intercalate (instant.shownFields.map toString) ++ ")"

end DateTime

end DebugLens
