import LogAlert.Calendar.Moment
import LogAlert.Text.Blank
import LogAlert.Text.Class
import LogAlert.Number.Reader

/-!
# Dates and times by layout

A layout is the list of the parts that a written date and time consists of.  Each part reads
one of several possible starts of a text, the longer ones first, and a layout takes the first
way of reading all its parts one after the other; the text fits the layout if nothing is left.

## Main definitions

* `Layout` : the layouts.
* `Layout.starts` : the possible readings of a part.
* `Layout.read?` : the moment that a text writes in a layout.
* `Layout.known` : the layouts in which a date may be written besides ISO 8601.
-/

namespace LogAlert

open Text (isBlank isDecimal digitValue?)

namespace Layout

/-- The numbers of a date and time, and the offset if there is one. -/
structure Fields where
  year : Nat
  month : Nat
  day : Nat
  hour : Nat
  minute : Nat
  second : Nat
  offset : Option Span
  deriving Inhabited

/-- The fields before anything is read. -/
def Fields.start : Fields :=
  ⟨1, 1, 1, 0, 0, 0, none⟩

/-- A part of a layout. -/
inductive Part where
  | year
  | month
  | day
  | hour
  | minute
  | second
  /-- A month by the first three letters of its name. -/
  | monthShort
  /-- A month by name. -/
  | monthName
  /-- A weekday by the first three letters of its name; it need not agree with the date. -/
  | weekday
  /-- An offset from UTC. -/
  | zone
  /-- One or more blanks. -/
  | gap
  /-- A character; of letters the case is free. -/
  | mark (c : Char)
  deriving DecidableEq, Repr

/-- The names of the months. -/
def monthNames : List String :=
  ["january", "february", "march", "april", "may", "june", "july", "august", "september",
    "october", "november", "december"]

/-- The short names of the weekdays. -/
def weekdayNames : List String :=
  ["mon", "tue", "wed", "thu", "fri", "sat", "sun"]

/-- Whether `c` lies between two characters. -/
def between (low high c : Char) : Bool :=
  low ≤ c && c ≤ high

/-- The value of a run of digits. -/
def number (cs : List Char) : Nat :=
  Number.digitsValue cs

/-- A number of two digits that satisfy `pair`, or else of a single one that satisfies
`single`. -/
def numberStarts (pair : Char → Char → Bool) (single : Char → Bool) (cs : List Char) :
    List (Nat × List Char) :=
  (match cs with
    | a :: b :: rest => if pair a b then [(number [a, b], rest)] else []
    | _ => []) ++
  (match cs with
    | a :: rest => if single a then [(number [a], rest)] else []
    | [] => [])

/-- The index, from one, of a name that the text starts with, and the rest. -/
def nameStarts (names : List String) (cs : List Char) : List (Nat × List Char) :=
  names.zipIdx.filterMap fun (name, i) =>
    if name.toList.isPrefixOf (cs.map Char.toLower) then some (i + 1, cs.drop name.length) else none

/-- Two digits, of which the first is at most five. -/
def takeSixty? : List Char → Option (Nat × List Char)
  | a :: b :: rest => if between '0' '5' a && isDecimal b then some (number [a, b], rest) else none
  | _ => none

/-- The rest of a text after the character `c`, and whether the text started with it. -/
def skip (c : Char) : List Char → Bool × List Char
  | d :: cs => if c == d then (true, cs) else (false, d :: cs)
  | [] => (false, [])

/-- The seconds of an offset and its microseconds, which follow a point in up to six digits. -/
def zoneSeconds (cs : List Char) : Span × List Char :=
  match takeSixty? (skip ':' cs).2 with
  | none => (0, cs)
  | some (seconds, rest) =>
    let digits := match rest with
      | '.' :: rest => (rest.take 6).takeWhile isDecimal
      | _ => []
    let micros := number digits * Nat.pow 10 (6 - digits.length)
    (seconds * Span.second + micros, if digits.isEmpty then rest else rest.drop (digits.length + 1))

/-- An offset from UTC: the letter Z, or a sign with hours, minutes and perhaps seconds.  All
parts are separated by colons or none is. -/
def zoneStarts (cs : List Char) : List (Span × List Char) :=
  match cs with
  | 'Z' :: rest => [(0, rest)]
  | sign :: a :: b :: rest =>
    if (sign == '+' || sign == '-') && isDecimal a && isDecimal b then
      let (colon, rest) := skip ':' rest
      match takeSixty? rest with
      | none => []
      | some (minutes, rest) =>
        let (seconds, after) := zoneSeconds rest
        if after.length != rest.length && (skip ':' rest).1 != colon then []
        else
          let amount := number [a, b] * Span.hour + minutes * Span.minute + seconds
          [(if sign == '-' then -amount else amount, after)]
    else []
  | _ => []

/-- The ways in which a part reads the start of a text. -/
def Part.starts (p : Part) (f : Fields) (cs : List Char) : List (Fields × List Char) :=
  match p with
  | .year =>
    let digits := cs.take 4
    if digits.length == 4 && digits.all isDecimal then
      [({ f with year := number digits }, cs.drop 4)]
    else []
  | .month =>
    (numberStarts (fun a b => (a == '1' && between '0' '2' b) || (a == '0' && between '1' '9' b))
      (between '1' '9') cs).map fun (n, rest) => ({ f with month := n }, rest)
  | .day =>
    (numberStarts (fun a b => (a == '3' && between '0' '1' b) || (between '1' '2' a && isDecimal b)
        || (a == '0' && between '1' '9' b)) (between '1' '9') cs ++
      (match cs with
        | ' ' :: a :: rest => if between '1' '9' a then [(number [a], rest)] else []
        | _ => [])).map fun (n, rest) => ({ f with day := n }, rest)
  | .hour =>
    (numberStarts (fun a b => (a == '2' && between '0' '3' b) || (between '0' '1' a && isDecimal b))
      isDecimal cs).map fun (n, rest) => ({ f with hour := n }, rest)
  | .minute =>
    (numberStarts (fun a b => between '0' '5' a && isDecimal b) isDecimal cs).map
      fun (n, rest) => ({ f with minute := n }, rest)
  | .second =>
    (numberStarts (fun a b => (a == '6' && between '0' '1' b) || (between '0' '5' a && isDecimal b))
      isDecimal cs).map fun (n, rest) => ({ f with second := n }, rest)
  | .monthShort =>
    (nameStarts (monthNames.map fun s => String.ofList (s.toList.take 3)) cs).map
      fun (n, rest) => ({ f with month := n }, rest)
  | .monthName => (nameStarts monthNames cs).map fun (n, rest) => ({ f with month := n }, rest)
  | .weekday => (nameStarts weekdayNames cs).map fun (_, rest) => (f, rest)
  | .zone => (zoneStarts cs).map fun (amount, rest) => ({ f with offset := some amount }, rest)
  | .gap =>
    let n := (cs.takeWhile isBlank).length
    (List.range n).map fun i => (f, cs.drop (n - i))
  | .mark c =>
    match cs with
    | d :: rest => if c.toLower == d.toLower then [(f, rest)] else []
    | [] => []

/-- The first way of reading all the parts, and what it leaves of the text. -/
def readParts? : List Part → Fields → List Char → Option (Fields × List Char)
  | [], f, cs => some (f, cs)
  | p :: ps, f, cs => (p.starts f cs).findSome? fun (f, rest) => readParts? ps f rest

/-- The moment with the given fields, if there is such a date, time and offset. -/
def Fields.moment? (f : Fields) : Option Moment := do
  let d ← Date.make? f.year f.month f.day
  let offsetFits := match f.offset with
    | some amount => -Span.day < amount && amount < Span.day
    | none => true
  if f.second < 60 && offsetFits then
    some
      { wall := (d.ordinal - 1 : Int) * Span.day + f.hour * Span.hour + f.minute * Span.minute +
          f.second * Span.second
        offset := f.offset }
  else none

end Layout

/-- A layout of dates and times. -/
abbrev Layout := List Layout.Part

namespace Layout

/-- The moment that a text writes in a layout. -/
def read? (layout : Layout) (cs : List Char) : Option Moment := do
  let (fields, rest) ← readParts? layout .start cs
  if rest.isEmpty then fields.moment? else none

/-- Hours and minutes. -/
def clock : Layout := [.hour, .mark ':', .minute]

/-- Hours, minutes and seconds. -/
def fullClock : Layout := clock ++ [.mark ':', .second]

/-- Digits only, with letters before the time and at the end. -/
def compact : Layout :=
  [.year, .month, .day, .mark 'T', .hour, .minute, .second, .mark 'Z']

/-- Year, month and day, separated by slashes. -/
def yearFirst : Layout := [.year, .mark '/', .month, .mark '/', .day]

/-- Month, day and year, separated by slashes. -/
def monthFirst : Layout := [.month, .mark '/', .day, .mark '/', .year]

/-- Day, short month and year, separated by slashes. -/
def dayFirst : Layout := [.day, .mark '/', .monthShort, .mark '/', .year]

/-- Day, short month and year. -/
def dayMonthYear : Layout := [.day, .gap, .monthShort, .gap, .year]

/-- The weekday before day, short month and year with the time. -/
def mail : Layout := [.weekday, .mark ',', .gap] ++ dayMonthYear ++ .gap :: fullClock

/-- Short month, day and year. -/
def monthDayYear : Layout := [.monthShort, .gap, .day, .gap, .year]

/-- The layouts that are tried in turn after ISO 8601. -/
def known : List Layout :=
  [compact,
    [.year, .month, .day],
    yearFirst,
    yearFirst ++ .gap :: fullClock,
    yearFirst ++ .gap :: clock,
    dayFirst ++ .mark ':' :: fullClock ++ [.gap, .zone],
    dayFirst,
    mail ++ [.gap, .zone],
    mail,
    dayMonthYear ++ .gap :: fullClock,
    dayMonthYear,
    monthDayYear ++ .gap :: fullClock,
    monthDayYear,
    [.monthShort, .gap, .day, .mark ',', .gap, .year],
    [.monthName, .gap, .day, .gap, .year],
    [.monthName, .gap, .day, .mark ',', .gap, .year],
    [.day, .gap, .monthName, .gap, .year],
    monthFirst ++ .gap :: fullClock,
    monthFirst ++ .gap :: clock,
    monthFirst]

end Layout

end LogAlert
