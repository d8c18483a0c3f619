/-!
# Dates and times of day

A date is one of the calendar that has a leap day in every fourth year, except in years that end a
century whose number four does not divide.  Weeks are counted from the first Sunday or Monday of a
year, or as weeks that belong to the year in which their Thursday lies.

Main statement: `weekday_succ`, days of the week follow each other in the count of days.
-/

namespace LoanDesk

namespace Calendar

/-- Whether a year has a leap day. -/
def isLeap (year : Int) : Bool := year % 4 == 0 && (year % 100 != 0 || year % 400 == 0)

/-- The number of days of a month. -/
def daysIn (year : Int) (month : Nat) : Nat :=
  if month = 2 then if isLeap year then 29 else 28
  else if month = 4 ∨ month = 6 ∨ month = 9 ∨ month = 11 then 30
  else 31

/-- The number of days of the first months of a year. -/
def daysOfMonths (year : Int) : Nat → Nat
  | 0 => 0
  | months + 1 => daysOfMonths year months + daysIn year (months + 1)

/-- The number of days from the first of January of the year 1 to that of a year. -/
def daysToYear (year : Int) : Int :=
  let y := year - 1
  365 * y + y / 4 - y / 100 + y / 400

/-- A day of the week, counted from Monday as `0`, where the first of January of the year 1 is a
Monday. -/
def weekday (days : Int) : Nat := (days % 7).toNat

/-- The next day is the next day of the week. -/
theorem weekday_succ (days : Int) : weekday (days + 1) = (weekday days + 1) % 7 := by
  unfold weekday
  omega

end Calendar

/-- A date. -/
structure Date where
  year : Int
  month : Nat
  day : Nat
  month_mem : 1 ≤ month ∧ month ≤ 12
  day_mem : 1 ≤ day ∧ day ≤ Calendar.daysIn year month
deriving DecidableEq

namespace Date

open Calendar

/-- The date of a year, a month and a day, if there is one. -/
def ofParts? (year : Int) (month day : Nat) : Option Date :=
  if hm : 1 ≤ month ∧ month ≤ 12 then
    if hd : 1 ≤ day ∧ day ≤ daysIn year month then some ⟨year, month, day, hm, hd⟩ else none
  else none

/-- The number of the day in its year, from `1` on. -/
def ordinal (d : Date) : Nat := daysOfMonths d.year (d.month - 1) + d.day

/-- The number of days since the first of January of the year 1. -/
def days (d : Date) : Int := daysToYear d.year + d.ordinal - 1

/-- The day of the week, counted from Monday as `0`. -/
def weekday (d : Date) : Nat := Calendar.weekday d.days

/-- The number of the quarter of the year. -/
def quarter (d : Date) : Nat := (d.month - 1) / 3 + 1

/-- The number of the week, where weeks begin on the given day of the week and the days before the
first such day are in week `0`. -/
def weekFrom (first : Nat) (d : Date) : Nat := (d.ordinal + 6 - (d.weekday + 7 - first) % 7) / 7

/-- The number of weeks whose Thursday lies in a year. -/
def weeksOfYear (year : Int) : Nat :=
  let first := Calendar.weekday (daysToYear year)
  if first = 3 ∨ (isLeap year ∧ first = 2) then 53 else 52

/-- The year in which the Thursday of the date's week lies, and the number of the week in it. -/
def isoWeek (d : Date) : Int × Nat :=
  let week := (d.ordinal + 9 - d.weekday) / 7
  if week = 0 then (d.year - 1, weeksOfYear (d.year - 1))
  else if weeksOfYear d.year < week then (d.year + 1, 1)
  else (d.year, week)

end Date

/-- A time of day at some place; second 60 is a leap second. -/
structure Moment where
  date : Date
  hour : Nat
  minute : Nat
  second : Nat
  nanosecond : Nat
  /-- The seconds by which clocks at the place are ahead. -/
  offset : Int
deriving DecidableEq

namespace Moment

/-- The number of days from the first of January of the year 1 to that of 1970. -/
def epochDays : Int := 719162

/-- The number of seconds since 1970 began. -/
def timestamp (m : Moment) : Int :=
  (m.date.days - epochDays) * 86400 + m.hour * 3600 + m.minute * 60 + min m.second 59 - m.offset

/-- The hour on a clock of twelve hours. -/
def hour12 (m : Moment) : Nat := if m.hour % 12 = 0 then 12 else m.hour % 12

/-- The time is after noon. -/
def isAfternoon (m : Moment) : Bool := 12 ≤ m.hour

end Moment

end LoanDesk
