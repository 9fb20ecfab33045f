import LogAlert.Console.Terminal
import LogAlert.Query.Canonical

/-!
# Reports

Tokens, log records and evaluations as they are shown to people, and tokens as documents.

## Main definitions

* `Report.tokens`, `Report.records`, `Report.tick` : the tables.
* `Report.tokenDocument` : a token as a document.
-/

namespace LogAlert.Console.Report

/-- A text in a style. -/
def styled (style text : String) : String :=
  "[" ++ style ++ "]" ++ text ++ "[/" ++ style ++ "]"

/-! ### Tokens -/

/-- What a token says in words: the field that it is about, the name of its operator, and the
value. -/
def filterCells : Filter → String × String × String
  | .term text | .phrase text => ("", "", text)
  | .metadata key op value => (key, op.name, value)
  | .level level => ("level", "", level)
  | .timestamp op instant => ("timestamp", op.name, instant.isoText)
  | .source pattern => ("source", "", pattern)

/-- A text, or null if it is empty. -/
def nonempty (s : String) : Json :=
  if s == "" then .null else .str s

/-- A token as a document. -/
def tokenDocument (t : Token) : Json :=
  let (field, op, value) := filterCells t.filter
  .obj
    [("type", .str t.kind), ("field", nonempty field), ("operator", nonempty op),
      ("value", .str value)]

/-- The row of a token, which is red if it excludes. -/
def tokenRow (t : Token) (number : Nat) : List String × Option String :=
  let (field, op, value) := filterCells t.filter
  ([toString number, t.kind, field, op, value], some (if t.excluded then "red" else ""))

/-- The table of tokens, which are numbered from one. -/
def tokens (ts : List Token) : Grid :=
  { title := "Tokens"
    columns := ["#", "kind", "field", "op", "value"]
    rows := ts.zipIdx.map fun (t, i) => tokenRow t (i + 1) }

/-! ### Records -/

/-- The style of a severity. -/
def levelStyle : String → String
  | "error" => "red"
  | "warning" => "yellow"
  | "debug" => "dim"
  | "info" => "green"
  | _ => "white"

/-- The row of a record. -/
def recordRow (r : Record) : List String × Option String :=
  ([toString r.id, r.timestamp.isoText,
    styled (levelStyle (String.ofList (Text.lower r.level.toList))) r.level, r.source, r.message],
    none)

/-- The table of records. -/
def records (title : String) (rs : List Record) : Grid :=
  { title
    columns := ["id", "timestamp", "level", "source", "message"]
    rows := rs.map recordRow }

/-- How many of all records there are. -/
def share (found all : Nat) : String :=
  styled "dim" (toString found ++ " of " ++ toString all ++ " records matched")

/-! ### Evaluations -/

/-- The table of an evaluation. -/
def tick (r : TickReport) : Grid :=
  { title := "tick @ " ++ r.startedAt.isoText
    columns := ["alert", "outcome"]
    rows := r.outcomes.map fun (id, outcome) => ([idText id, outcome.name], none) }

end LogAlert.Console.Report
