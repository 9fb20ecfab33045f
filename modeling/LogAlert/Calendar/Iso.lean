import LogAlert.Calendar.Moment
import LogAlert.Text.Quoted
import LogAlert.Text.Utf8
import LogAlert.Number.Reader

/-!
# ISO 8601 dates and times

The written form of moments, and a reader of the forms of ISO 8601: calendar dates and week
dates, with or without separators, any one character between date and time, times down to
the microsecond, and offsets down to the microsecond.

The reader cuts a fraction to six digits and, before an offset, passes over what follows the
sixth digit or a separator without digits.

## Main definitions

* `Moment.isoText`, `Date.isoText` : the written forms.
* `Iso.readMoment` : the moment of a text.
* `Iso.readDate?` : the date of a text that is a date alone.
-/

namespace LogAlert

/-- A number with at least `width` digits. -/
def padded (width n : Nat) : List Char :=
  let digits := Nat.toDigits 10 n
  List.replicate (width - digits.length) '0' ++ digits

/-- The written form of a date: four digits, two and two. -/
def Date.isoText (d : Date) : List Char :=
  padded 4 d.year ++ '-' :: padded 2 d.month ++ '-' :: padded 2 d.day

/-- Hours and minutes, and seconds with six digits of a fraction unless they are zero.
`always` keeps the seconds even then. -/
def clockText (always : Bool) (micros : Nat) : List Char :=
  let seconds := micros / 1000000
  let fraction := micros % 1000000
  padded 2 (seconds / 3600) ++ ':' :: padded 2 (seconds / 60 % 60) ++
    (if always || seconds % 60 != 0 || fraction != 0 then ':' :: padded 2 (seconds % 60) else []) ++
    (if fraction != 0 then '.' :: padded 6 fraction else [])

/-- The written form of an offset. -/
def offsetText (offset : Int) : List Char :=
  (if offset < 0 then '-' else '+') :: clockText false offset.natAbs

/-- The written form of a moment. -/
def Moment.isoChars (m : Moment) : List Char :=
  m.date.isoText ++ 'T' :: clockText true m.timeOfDay.toNat ++
    (match m.offset with
      | some offset => offsetText offset
      | none => [])

/-- The written form of a moment. -/
def Moment.isoText (m : Moment) : String :=
  String.ofList m.isoChars

namespace Iso

/-- Why a text is not a moment. -/
inductive Problem where
  | malformed
  | date (problem : Date.Problem)
  | hour
  | minute
  | second
  | offset (amount : Int)
  deriving DecidableEq, Repr, Inhabited

/-- The wording of a problem with the text `cs`. -/
def Problem.message (cs : List Char) : Problem → String
  | .malformed => "Invalid isoformat string: " ++ String.ofList (Text.quoted cs)
  | .date problem => problem.message
  | .hour => "hour must be in 0..23"
  | .minute => "minute must be in 0..59"
  | .second => "second must be in 0..59"
  | .offset amount =>
    "offset must be a timedelta strictly between -timedelta(hours=24) and " ++
      "timedelta(hours=24), not " ++ Span.inspect amount ++ "."

/-- The number that the first `count` characters write in ASCII digits, and the rest. -/
def takeNumber? (count : Nat) (cs : List Char) : Option (Nat × List Char) :=
  let digits := cs.take count
  if digits.length == count && digits.all Char.isDigit then
    some (Number.digitsValue digits, cs.drop count)
  else none

/-- A date before it is known to exist. -/
inductive DateFields where
  | calendar (year month day : Nat)
  | weekly (year week day : Nat)

/-- The date at the front of a text.  `length` is the number of characters that it may take,
which decides whether a week date has a weekday. -/
def dateFields? (length : Nat) (cs : List Char) : Option DateFields := do
  let (year, rest) ← takeNumber? 4 cs
  let dashed := rest.head? = some '-'
  let rest := if dashed then rest.drop 1 else rest
  match rest with
  | 'W' :: rest =>
    let (week, rest) ← takeNumber? 2 rest
    if (if dashed then 8 else 7) < length then
      let rest ← if !dashed then some rest else if rest.head? = some '-' then some (rest.drop 1)
        else none
      let (day, _) ← takeNumber? 1 rest
      some (.weekly year week day)
    else some (.weekly year week 1)
  | rest =>
    let (month, rest) ← takeNumber? 2 rest
    let rest ← if !dashed then some rest else if rest.head? = some '-' then some (rest.drop 1)
      else none
    let (day, _) ← takeNumber? 2 rest
    some (.calendar year month day)

/-- The date with the given fields. -/
def DateFields.date : DateFields → Except Problem Date
  | .calendar year month day => (Date.make year month day).mapError .date
  | .weekly year week day =>
    match Date.isoOrdinal? year week day with
    | none => .error .malformed
    | some n =>
      if year == 0 then .error (.date .month)
      else if Date.maxOrdinal < n then .error (.date (.year 10000))
      else .ok (.ofOrdinal n)

/-- A time of day as it is written, and whether the text ends with it. -/
structure ClockFields where
  hour : Nat
  minute : Nat
  second : Nat
  micro : Nat
  complete : Bool

/-- Whether a text is over: at its end, or at a null character. -/
def isOver : List Char → Bool
  | [] => true
  | c :: _ => c == '\x00'

/-- The fraction of a second, cut to six digits.  Fewer than six characters must all be
digits. -/
def fraction? (cs : List Char) : Option (Nat × Bool) := do
  let count := min 6 cs.length
  let (n, rest) ← takeNumber? count cs
  some (n * Nat.pow 10 (6 - count), isOver (rest.dropWhile Char.isDigit))

/-- Up to `left` parts of two digits each and the fraction after a point.  With colons each
further part follows one; without them it follows directly.  A last single character is left
unread. -/
def clockParts (colons : Bool) : Nat → List Char → Option (List Nat × Nat × Bool)
  | 0, cs => do
    let (micro, complete) ← fraction? cs
    some ([], micro, complete)
  | left + 1, cs => do
    let (part, rest) ← takeNumber? 2 cs
    let (parts, micro, complete) ← match rest with
      | [] => some ([], 0, true)
      | c :: tail =>
        if tail.isEmpty && c.toNat < 128 then some ([], 0, isOver rest)
        else if colons && c == ':' then clockParts colons left tail
        else if c == '.' || c == ',' then clockParts colons 0 tail
        else if colons then none
        else clockParts colons left rest
    some (part :: parts, micro, complete)

/-- A time of day: hours, with minutes, seconds and a fraction as far as they are given. -/
def clock? (cs : List Char) : Option ClockFields := do
  let colons := (cs.drop 2).head? = some ':'
  let (parts, micro, complete) ← clockParts colons 3 cs
  some ⟨parts.getD 0 0, parts.getD 1 0, parts.getD 2 0, micro, complete⟩

/-- The offset that a text writes, sign first; a text of seconds that is zero is UTC. -/
def offset (cs : List Char) : Except Problem Int :=
  match cs with
  | sign :: cs =>
    if sign == 'Z' then if isOver cs then .ok 0 else .error .malformed
    else match clock? cs with
      | some c =>
        if !c.complete then .error .malformed
        else
          let seconds : Int := c.hour * 3600 + c.minute * 60 + c.second
          let amount := seconds * Span.second + c.micro
          let amount := if sign == '-' then -amount else amount
          if seconds == 0 then .ok 0
          else if -Span.day < amount && amount < Span.day then .ok amount
          else .error (.offset amount)
      | none => .error .malformed
  | [] => .error .malformed

/-- The characters that start an offset. -/
def startsOffset (c : Char) : Bool :=
  c == '+' || c == '-' || c == 'Z'

/-- A time of day with the offset that may follow it. -/
def timeFields (cs : List Char) : Except Problem (ClockFields × Option Int) :=
  let zone := cs.dropWhile fun c => !startsOffset c
  match clock? (cs.takeWhile fun c => !startsOffset c) with
  | none => .error .malformed
  | some c =>
    if zone.isEmpty then
      if c.complete then .ok (c, none) else .error .malformed
    else do
      let amount ← offset zone
      .ok (c, some amount)

/-- How many characters the date at the front of a text takes.  A week date without separators
may end in a weekday or be followed by digits of the time, which come in pairs. -/
def dateLength? (cs : List Char) : Option Nat :=
  let length := cs.length
  let letter (i : Nat) : Char := cs.getD i ' '
  if length == 7 then some 7
  else if letter 4 == '-' then
    if letter 5 == 'W' then
      if 8 < length && letter 8 == '-' then
        if length == 9 then none
        else if 10 < length && (letter 10).isDigit then some 8
        else some 10
      else some 8
    else some 10
  else if letter 4 == 'W' then
    let digits := 7 + ((cs.drop 7).takeWhile Char.isDigit).length
    if digits < 9 then some digits else if digits % 2 == 0 then some 7 else some 8
  else some 8

/-- The moment on a date at a time of day. -/
def combine (d : Date) (c : ClockFields) (offset : Option Int) : Except Problem Moment :=
  if 23 < c.hour then .error .hour
  else if 59 < c.minute then .error .minute
  else if 59 < c.second then .error .second
  else .ok
    { wall := (d.ordinal - 1 : Int) * Span.day + c.hour * Span.hour + c.minute * Span.minute +
        c.second * Span.second + c.micro
      offset }

/-- The moment that a text writes. -/
def readMoment (cs : List Char) : Except Problem Moment :=
  match dateLength? cs with
  | none => .error .malformed
  | some length =>
    match dateFields? length cs with
    | none => .error .malformed
    | some fields =>
      match fields with
      | .weekly year week day =>
        if (Date.isoOrdinal? year week day).isNone then .error .malformed
        else finish fields length
      | _ => finish fields length
where
  /-- Reads the time and puts the moment together; an impossible offset is found first. -/
  finish (fields : DateFields) (length : Nat) : Except Problem Moment := do
    let rest := cs.drop length
    let (c, offset) ← if rest.isEmpty then .ok (⟨0, 0, 0, 0, true⟩, none) else timeFields (rest.drop 1)
    let d ← fields.date
    combine d c offset

/-- The date that a text writes without a time.  The length is that of one of the forms in
octets, and what follows a date without separators is passed over. -/
def readDate? (cs : List Char) : Option Date := do
  let length := (Text.Utf8.encode cs).length
  if length == 7 || length == 8 || length == 10 then
    (← dateFields? length cs).date.toOption
  else none

end Iso

end LogAlert
