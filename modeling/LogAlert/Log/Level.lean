import LogAlert.Json.Value
import LogAlert.Text.Blank
import LogAlert.Text.Lower

/-!
# Severities

A log record has one of four severities.

## Main definitions

* `Level.names` : the severities, lowest first.
* `Level.normalize` : the severity that any value stands for.
-/

namespace LogAlert.Level

/-- The severities, lowest first. -/
def names : List String :=
  ["debug", "info", "warning", "error"]

/-- The severity of a spelling: its own name in any case, a short form of `warning`, and
otherwise `info`. -/
def ofText (cs : List Char) : String :=
  let name := String.ofList (Text.lower (Text.strip cs))
  if names.contains name then name
  else if name == "warn" then "warning"
  else "info"

/-- The severity that a value stands for. -/
def normalize (v : Json) : String :=
  ofText (if v.isTruthy then v.display.toList else [])

end LogAlert.Level
