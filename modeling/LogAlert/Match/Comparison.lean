import LogAlert.Failure
import LogAlert.Json.Writer
import LogAlert.Number.Reader
import LogAlert.Query.Token
import LogAlert.Text.Lower
import LogAlert.Text.Search

/-!
# Comparing metadata with comparands

A value and a comparand are compared as numbers if both are numbers, and as texts otherwise.
As texts, equality means that the value contains the comparand, whatever the case of letters.

## Main definitions

* `Match.lookup?` : the metadata value under a key, which may name a path.
* `Match.numberOf` : the number that a value is or writes.
* `Match.textOf` : the text that a value is or is written as.
* `Match.compare` : whether a value stands in a relation to a comparand.
-/

namespace LogAlert

/-- The relation between two numbers by their positions. -/
def Operator.relatesPositions (op : Operator) (a b : Position) : Bool :=
  match op with
  | .eq => a == b
  | .gt => b.before a
  | .gte => b.atMost a
  | .lt => a.before b
  | .lte => a.atMost b

/-- The relation between two texts in the order of their characters' code points. -/
def Operator.relatesTexts (op : Operator) (a b : String) : Bool :=
  match op with
  | .eq => a == b
  | .gt => b < a
  | .gte => b ≤ a
  | .lt => a < b
  | .lte => a ≤ b

namespace Match

/-- Whether `needle` occurs in the text when case is ignored. -/
def containsFolded (needle text : String) : Bool :=
  Text.contains (Text.lower needle.toList) (Text.lower text.toList)

/-- Follows a path of keys through nested objects. -/
def walk? (v : Json) : List String → Option Json
  | [] => some v
  | key :: keys =>
    match v with
    | .obj fields =>
      match Json.field? fields key with
      | some v => walk? v keys
      | none => none
    | _ => none

/-- The value under a key.  A key with points that is not there itself is a path. -/
def lookup? (metadata : Json.Fields) (key : String) : Option Json :=
  match Json.field? metadata key with
  | some v => some v
  | none => walk? (.obj metadata) ((Text.splitOn '.' key.toList).map String.ofList)

/-- Where the number lies that a value is or writes.  Truth values and texts that write no
number have none; an integer too large for double precision fails. -/
def numberOf (v : Json) : Except Failure (Option Position) :=
  match v with
  | .int n =>
    match Binary64.ofInt? n with
    | some x => .ok x.position?
    | none => .error (.of .overflow "int too large to convert to float")
  | .float x => .ok x.position?
  | .str s => .ok ((Number.readNumber? (Text.strip s.toList)).bind Binary64.position?)
  | _ => .ok none

/-- The text that a value is or is written as.  A value with an integer that is too long to be
written has none. -/
def textOf (v : Json) : Except Failure String :=
  if v.fits then .ok v.asText
  else .error (.value (Number.limitText ++
    "; use sys.set_int_max_str_digits() to increase the limit"))

/-- Whether a value stands in the given relation to a comparand. -/
def compare (actual : Json) (op : Operator) (expected : String) : Except Failure Bool := do
  if actual.isNull then .ok false
  else
    let left ← numberOf actual
    let right ← numberOf (.str expected)
    match left, right with
    | some a, some b => .ok (op.relatesPositions a b)
    | _, _ =>
      let text ← textOf actual
      if op == .eq then .ok (containsFolded expected text)
      else .ok (op.relatesTexts text expected)

end Match

end LogAlert
