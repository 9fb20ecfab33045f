/-!
# Dates

The proleptic Gregorian calendar for the years 1 to 9999, and the count of days since its
beginning.

## Main definitions

* `Date` : a day by year, month and day of the month.
* `Date.make?` : the date with given numbers, if there is one.
* `Date.ordinal`, `Date.ofOrdinal` : the count of days, where 1 January of year 1 is day 1.
* `Date.ofIsoWeek?` : the date with a given ISO year, week and weekday.
-/

namespace LogAlert

/-- Whether the year has a 29 February. -/
def isLeap (year : Nat) : Bool :=
  year % 4 == 0 && (year % 100 != 0 || year % 400 == 0)

/-- The lengths of the months of a year. -/
def monthLengths (leap : Bool) : List Nat :=
  [31, if leap then 29 else 28, 31, 30, 31, 30, 31, 31, 30, 31, 30, 31]

/-- The days before 1 January of a year. -/
def daysBeforeYear (year : Nat) : Nat :=
  let past := year - 1
  past * 365 + past / 4 - past / 100 + past / 400

/-- The days of a year before the first of a month. -/
def daysBeforeMonth (year month : Nat) : Nat :=
  ((monthLengths (isLeap year)).take (month - 1)).foldr (· + ·) 0

/-- The number of days in a month. -/
def daysInMonth (year month : Nat) : Nat :=
  (monthLengths (isLeap year)).getD (month - 1) 0

/-- A day of the calendar. -/
structure Date where
  year : Nat
  month : Nat
  day : Nat
  deriving DecidableEq, Repr, Inhabited

namespace Date

/-- The last year. -/
def maxYear : Nat := 9999

/-- The count of 31 December 9999. -/
def maxOrdinal : Nat := 3652059

/-- Why numbers are no date. -/
inductive Problem where
  | year (n : Int)
  | month
  | day
  deriving DecidableEq, Repr, Inhabited

/-- The wording of a problem. -/
def Problem.message : Problem → String
  | .year n => "year " ++ toString n ++ " is out of range"
  | .month => "month must be in 1..12"
  | .day => "day is out of range for month"

/-- The date with the given numbers, or the first of them that is out of its range. -/
def make (year month day : Nat) : Except Problem Date :=
  if year < 1 || maxYear < year then .error (.year year)
  else if month < 1 || 12 < month then .error .month
  else if day < 1 || daysInMonth year month < day then .error .day
  else .ok ⟨year, month, day⟩

/-- The date with the given numbers, if there is one. -/
def make? (year month day : Nat) : Option Date :=
  (make year month day).toOption

/-- The count of a date's day. -/
def ordinal (d : Date) : Nat :=
  daysBeforeYear d.year + daysBeforeMonth d.year d.month + d.day

/-- The index of the month that holds the day with the given index, and the day's index in
it. -/
def splitMonths : List Nat → Nat → Nat × Nat
  | [], n => (0, n)
  | len :: lens, n =>
    if n < len then (0, n)
    else
      let (month, day) := splitMonths lens (n - len)
      (month + 1, day)

/-- The date of the day with a given count. -/
def ofOrdinal (n : Nat) : Date :=
  let n := n - 1
  let n400 := n / 146097
  let n := n % 146097
  let n100 := n / 36524
  let n := n % 36524
  let n4 := n / 1461
  let n := n % 1461
  let n1 := n / 365
  let n := n % 365
  let year := n400 * 400 + n100 * 100 + n4 * 4 + n1 + 1
  if n1 == 4 || n100 == 4 then ⟨year - 1, 12, 31⟩
  else
    let (month, day) := splitMonths (monthLengths (isLeap year)) n
    ⟨year, month + 1, day + 1⟩

/-- The day of the week of a day's count: Monday is 0. -/
def weekday (ordinal : Nat) : Nat :=
  (ordinal + 6) % 7

/-- The count of the Monday of the first ISO week of a year, which holds 4 January.  Counted
from a week before the calendar's first day, so that the count is not negative. -/
def isoYearStart (year : Nat) : Nat :=
  let first := daysBeforeYear year + 1
  let day := weekday first
  let monday := first + 7 - day
  if 3 < day then monday + 7 else monday

/-- Whether the ISO year has 53 weeks: it starts on a Thursday, or on a Wednesday in a leap
year. -/
def hasLongIsoYear (year : Nat) : Bool :=
  let day := weekday (daysBeforeYear year + 1)
  day == 3 || (day == 2 && isLeap year)

/-- The count of the day with an ISO year, week and weekday, if there is such a week and
weekday.  The count may lie past the calendar's end. -/
def isoOrdinal? (year week day : Nat) : Option Nat :=
  if week < 1 || 53 < week || (week == 53 && !(1 ≤ year && hasLongIsoYear year)) then none
  else if day < 1 || 7 < day then none
  else some (isoYearStart year + (week - 1) * 7 + day - 8)

end Date

end LogAlert
