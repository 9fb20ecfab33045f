import LogAlert.Json.Value
import LogAlert.Query.Instant

/-!
# Time stamps

The time of a log entry: a count of seconds since the beginning of 1970, or an absolute date
and time as text.  Words and amounts relative to the current time are refused, so that an
entry has the same time whenever it is read.

## Main definitions

* `Stamp.ofSeconds?` : the moment of a count of seconds.
* `Stamp.read?` : the moment of a value.
-/

namespace LogAlert.Stamp

/-- The moment that many microseconds after the beginning of 1970. -/
def ofMicros? (micros : Int) : Option Moment :=
  let wall := Moment.epoch + micros
  if Moment.inRange wall then some ⟨wall, some 0⟩ else none

/-- The microseconds of a count of seconds.  The fraction of a second is multiplied in double
precision and rounded to the nearest integer, a tie going to the even one. -/
def micros (negative : Bool) (significand : Nat) (exponent : Int) : Int :=
  let (num, den) := Binary64.ratio significand exponent
  let fraction := match Binary64.ofRatio false (num % den * 1000000) den with
    | .finite _ m e =>
      let (a, b) := Binary64.ratio m e
      roundRatio a b
    | _ => 0
  Binary64.signed negative (num / den * 1000000 + fraction)

/-- The moment of a count of seconds. -/
def ofSeconds? : Binary64 → Option Moment
  | .finite negative m e => ofMicros? (micros negative m e)
  | _ => none

/-- The moment of a text that is neither a relative word nor starts with a minus sign. -/
def ofText? (cs : List Char) : Option Moment :=
  let cs := Text.strip cs
  let lowered := Text.lower cs
  if lowered == Instant.todayWord || lowered == Instant.yesterdayWord then none
  else if cs.isEmpty || cs.head? = some '-' then none
  else Instant.readAbsolute? cs

/-- The moment of a value. -/
def read? : Json → Option Moment
  | .int n => ofMicros? (n * 1000000)
  | .float x => ofSeconds? x
  | .str s => ofText? s.toList
  | _ => none

end LogAlert.Stamp
