import LogAlert.Calendar.Iso
import LogAlert.Calendar.Layout
import LogAlert.Failure
import LogAlert.Text.Lower

/-!
# Instants

The moments that a query or a log entry names: words and amounts of time relative to the
current time, ISO 8601, and the known layouts, in this order.  Without an offset a moment is
in UTC.

## Main definitions

* `Instant.startOfDay` : midnight UTC of a moment's day.
* `Instant.readAbsolute?` : the moment of a text, independent of the current time.
* `Instant.read` : the moment of a text at a given time.
-/

namespace LogAlert.Instant

/-- A moment on the clock of UTC.  One without an offset is converted by the clock of a place
whose offset is zero, which is undefined on the calendar's first day. -/
def toUtc (m : Moment) : Except Failure Moment :=
  if m.isAware then
    match m.toUtc? with
    | some utc => .ok utc
    | none => .error .dateOverflow
  else if m.wall < Span.day then .error (.value (Date.Problem.year 0).message)
  else .ok m.assumeUtc

/-- Midnight UTC of the day that contains a moment. -/
def startOfDay (m : Moment) : Except Failure Moment := do
  let utc ← toUtc m
  .ok { utc with wall := utc.wall - utc.timeOfDay }

/-- The moment that is `amount` before another one. -/
def before (m : Moment) (amount : Span) : Except Failure Moment :=
  match m.shift? (-amount) with
  | some m => .ok m
  | none => .error .dateOverflow

/-- The length of time that the letter of a unit stands for. -/
def unitSpan? : Char → Option Span
  | 'm' => some Span.minute
  | 'h' => some Span.hour
  | 'd' => some Span.day
  | 'w' => some Span.week
  | _ => none

/-- The moment before `now` that a minus sign, up to nine digits and a unit name. -/
def readRelative? (cs : List Char) (now : Moment) : Option Moment := do
  match cs with
  | '-' :: cs =>
    let cs := Text.dropFinalNewline cs
    let digits := cs.dropLast
    let unit ← unitSpan? (← cs.getLast?)
    if digits.isEmpty || 9 < digits.length || !digits.all Text.isDecimal then none
    else now.shift? (-(Number.digitsValue digits * unit))
  | _ => none

/-- The text of an ISO moment with a final letter Z written as an offset. -/
def unfoldZone (cs : List Char) : List Char :=
  if cs.getLast? = some 'Z' || cs.getLast? = some 'z' then cs.dropLast ++ "+00:00".toList else cs

/-- The moment of an ISO date, at midnight, or of an ISO date and time. -/
def readIso? (cs : List Char) : Option Moment :=
  match Iso.readDate? cs with
  | some d => some (.midnight d)
  | none => ((Iso.readMoment (unfoldZone cs)).toOption).map Moment.assumeUtc

/-- The moment in the first of the known layouts that fits. -/
def readLayout? (cs : List Char) : Option Moment :=
  (Layout.known.findSome? (·.read? cs)).map Moment.assumeUtc

/-- The moment of a text that does not depend on the current time. -/
def readAbsolute? (cs : List Char) : Option Moment :=
  match readIso? cs with
  | some m => some m
  | none => readLayout? cs

/-- The word for the current day. -/
def todayWord : List Char := "today".toList

/-- The word for the day before. -/
def yesterdayWord : List Char := "yesterday".toList

/-- The moment of a text, if it names one.  Only the two words fail, at the ends of the
calendar. -/
def read (value : List Char) (now : Moment) : Except Failure (Option Moment) :=
  let cs := Text.strip value
  let now := now.assumeUtc
  let lowered := Text.lower cs
  if cs.isEmpty then .ok none
  else if lowered == todayWord then (startOfDay now).map some
  else if lowered == yesterdayWord then do
    let past ← before now Span.day
    (startOfDay past).map some
  else if lowered.head? = some '-' then .ok (readRelative? lowered now)
  else .ok (readAbsolute? cs)

end LogAlert.Instant
