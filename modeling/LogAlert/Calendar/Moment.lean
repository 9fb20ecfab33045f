import LogAlert.Calendar.Date
import LogAlert.Calendar.Span

/-!
# Moments

A date with a time of day in microseconds, and with or without an offset from UTC.

A moment is kept as the number on its clock, counted in microseconds from the beginning of
year 1, and the clock's offset.  Moments with an offset compare by the instant they denote;
moments without one compare by their clocks; the two sorts do not compare with each other.

The offset belongs to the moment: a moment that is shifted keeps it, and there are no time zones
whose offset depends on the date, nor times that a clock shows twice.

## Main definitions

* `Moment` : the moments.
* `Moment.instant` : the instant, counted on the clock of UTC.
* `Moment.shift?`, `Moment.toUtc?` : moving in time and changing to UTC, within the years 1 to
  9999.
* `Moment.atMost?`, `Moment.before?` : comparison.
-/

namespace LogAlert

/-- A date and time of day.  `wall` counts the microseconds on the clock since the beginning of
year 1, and `offset` tells how far the clock is ahead of UTC, if that is known. -/
structure Moment where
  wall : Int
  offset : Option Int
  deriving DecidableEq, Repr, Inhabited

namespace Moment

open LogAlert.Span (day)

/-- The number of microseconds in the years 1 to 9999. -/
def span : Int := Date.maxOrdinal * day

/-- Whether a clock shows a time of the years 1 to 9999. -/
def inRange (wall : Int) : Bool :=
  0 ≤ wall && wall < span

/-- Midnight UTC of a date. -/
def midnight (d : Date) : Moment :=
  ⟨(d.ordinal - 1 : Int) * day, some 0⟩

/-- Whether the offset from UTC is known. -/
def isAware (m : Moment) : Bool :=
  m.offset.isSome

/-- The instant, counted on the clock of UTC.  A moment without an offset counts as UTC. -/
def instant (m : Moment) : Int :=
  m.wall - m.offset.getD 0

/-- The moment with offset zero where it has none. -/
def assumeUtc (m : Moment) : Moment :=
  if m.isAware then m else { m with offset := some 0 }

/-- The moment that many microseconds later by the same clock, within the calendar. -/
def shift? (m : Moment) (amount : Int) : Option Moment :=
  let wall := m.wall + amount
  if inRange wall then some { m with wall := wall } else none

/-- The same instant on the clock of UTC, within the calendar. -/
def toUtc? (m : Moment) : Option Moment :=
  if inRange m.instant then some ⟨m.instant, some 0⟩ else none

/-- The time of day on the clock. -/
def timeOfDay (m : Moment) : Int :=
  m.wall % day

/-- The moment without the fraction of its second. -/
def wholeSecond (m : Moment) : Moment :=
  { m with wall := m.wall - m.wall % Span.second }

/-- The date on the clock. -/
def date (m : Moment) : Date :=
  .ofOrdinal (m.wall / day + 1).toNat

/-- Whether both or neither of two moments have an offset. -/
def comparable (a b : Moment) : Bool :=
  a.isAware == b.isAware

/-- Whether `a` is not after `b`, for moments that compare. -/
def atMost? (a b : Moment) : Option Bool :=
  if a.comparable b then some (a.instant ≤ b.instant) else none

/-- Whether `a` is before `b`, for moments that compare. -/
def before? (a b : Moment) : Option Bool :=
  if a.comparable b then some (a.instant < b.instant) else none

/-- Whether two moments are equal: they compare, and denote the same instant. -/
def same (a b : Moment) : Bool :=
  a.comparable b && a.instant == b.instant

/-- The time from `b` to `a` in microseconds, for moments that compare. -/
def elapsed? (a b : Moment) : Option Int :=
  if a.comparable b then some (a.instant - b.instant) else none

/-- The instant at which seconds are counted from: the beginning of 1970. -/
def epoch : Int := 719162 * day

end Moment

end LogAlert
