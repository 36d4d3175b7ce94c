set_option autoImplicit false

/-!
# Points in time

A moment is a day of the Gregorian calendar, continued to all years, with a time of day. Days are
counted from the first of January 1970.

## Main definitions

* `Specimen.Moment`, `Specimen.Instant` — a day and a time of day, to the second and more exactly.
* `Specimen.Moment.ofSeconds`, `Specimen.Moment.toSeconds` — seconds since the start of 1970.
* `Specimen.Moment.weekday`, `Specimen.Moment.dayOfYear`, `Specimen.Moment.isoWeek` — derived
  quantities.
-/

namespace Specimen

/-- A day and a time of day. -/
structure Moment where
  /-- The year; the year zero comes before the year one. -/
  year : Int
  /-- The month, from one. -/
  month : Nat
  /-- The day of the month, from one. -/
  day : Nat
  /-- The hour, from zero. -/
  hour : Nat
  /-- The minute. -/
  minute : Nat
  /-- The second. -/
  second : Nat
  deriving DecidableEq, Repr

/-- A moment and the nanoseconds since. -/
structure Instant where
  /-- The moment. -/
  moment : Moment
  /-- The nanoseconds since the second of the moment. A thousand million of them and more are in a
  leap second. -/
  nanosecond : Nat
  deriving DecidableEq, Repr

namespace Moment

/-! ## Counting days -/

/-- Years with a twenty-ninth of February. -/
def isLeap (year : Int) : Bool := year % 4 == 0 && (year % 100 != 0 || year % 400 == 0)

/-- The number of days of a year before the start of a month. -/
def daysBeforeMonth (year : Int) (month : Nat) : Nat :=
  let common := [0, 31, 59, 90, 120, 151, 181, 212, 243, 273, 304, 334].getD (month - 1) 0
  if 2 < month && isLeap year then common + 1 else common

/-- The number of days from the first of January of the year one to that of another year. -/
def daysBeforeYear (year : Int) : Int :=
  let past := year - 1
  365 * past + past / 4 - past / 100 + past / 400

/-- The number of days from the year one to the first of January 1970. -/
def epoch : Int := 719162

/-- The day of the year, from one. -/
def dayOfYear (m : Moment) : Nat := daysBeforeMonth m.year m.month + m.day

/-- The number of days since the first of January 1970. -/
def dayNumber (m : Moment) : Int := daysBeforeYear m.year - epoch + m.dayOfYear - 1

/-- The seconds since the start of 1970. -/
def toSeconds (m : Moment) : Int :=
  m.dayNumber * 86400 + (m.hour * 3600 + m.minute * 60 + m.second : Nat)

/-- The month that a day of the year, from zero, falls into, and the day of that month. -/
def monthOfDay (year : Int) (dayOfYear : Nat) : Nat × Nat :=
  let month := ((List.range 12).filter fun n => daysBeforeMonth year (n + 1) ≤ dayOfYear).length
  (month, dayOfYear - daysBeforeMonth year month + 1)

/-- The moment that many seconds after the start of 1970. The year is found from the mean length of
a year, which is off by at most one. -/
def ofSeconds (seconds : Int) : Moment :=
  let days := seconds / 86400 + epoch
  let rest := (seconds % 86400).toNat
  let guess := days * 400 / 146097 + 1
  let year :=
    if days < daysBeforeYear guess then guess - 1
    else if daysBeforeYear (guess + 1) ≤ days then guess + 1
    else guess
  let (month, day) := monthOfDay year (days - daysBeforeYear year).toNat
  ⟨year, month, day, rest / 3600, rest / 60 % 60, rest % 60⟩

/-! ## Weeks -/

/-- The day of the week, from zero for Monday. -/
def weekday (m : Moment) : Nat := ((m.dayNumber + 3) % 7).toNat

/-- The number of the week when weeks begin so many days after Monday; the days before the first
such day are in week zero. -/
def weekFrom (m : Moment) (start : Nat) : Nat :=
  (m.dayOfYear + 6 - (m.weekday + 7 - start) % 7) / 7

/-- The number of weeks that the international calendar gives to a year: one more when the year
begins on a Thursday, or is a leap year and begins on a Wednesday. -/
def isoWeeksIn (year : Int) : Nat :=
  let first := ((daysBeforeYear year - epoch + 3) % 7).toNat
  if first = 3 || (first = 2 && isLeap year) then 53 else 52

/-- Year and number of the week in the international calendar, whose weeks begin on Monday and
belong to the year of their Thursday. -/
def isoWeek (m : Moment) : Int × Nat :=
  let week := (m.dayOfYear + 9 - m.weekday) / 7
  if week = 0 then (m.year - 1, isoWeeksIn (m.year - 1))
  else if isoWeeksIn m.year < week then (m.year + 1, 1)
  else (m.year, week)

/-- The hour on a dial of twelve hours. -/
def hour12 (m : Moment) : Nat := if m.hour % 12 = 0 then 12 else m.hour % 12

end Moment

end Specimen
