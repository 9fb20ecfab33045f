/-!
# Lengths of time

Lengths of time are integers that count microseconds.

## Main definitions

* `Span` : the lengths of time.
* `Span.second` … `Span.week` : the units.
* `Span.inspect` : the form of a length inside a message.
-/

namespace LogAlert

/-- A length of time in microseconds. -/
abbrev Span := Int

namespace Span

/-- A second. -/
abbrev second : Span := 1000000

/-- A minute. -/
abbrev minute : Span := 60 * second

/-- An hour. -/
abbrev hour : Span := 60 * minute

/-- A day. -/
abbrev day : Span := 24 * hour

/-- A week. -/
abbrev week : Span := 7 * day

/-- A length of time in words: days, seconds and microseconds, the latter two not negative. -/
def inspect (amount : Span) : String :=
  let days := amount.fdiv day
  let rest := amount - days * day
  let parts := [("days", days), ("seconds", rest / second), ("microseconds", rest % second)]
  let shown := (parts.filter (·.2 != 0)).map fun (name, n) => name ++ "=" ++ toString n
  "datetime.timedelta(" ++ (if shown.isEmpty then "0" else String.intercalate ", " shown) ++ ")"

end Span

end LogAlert
