import LogAlert.Calendar.Moment

/-!
# Query tokens

A query is a list of tokens, and a log record answers it if it answers every token.  A token
is a filter, either as it stands or excluded.

## Main definitions

* `Operator` : the comparison that a filter makes.
* `Filter`, `Token` : the tokens.
* `Token.same` : equality of tokens, moments being equal as instants.
-/

namespace LogAlert

/-- A comparison of a value with a comparand. -/
inductive Operator where
  | eq
  | gt
  | gte
  | lt
  | lte
  deriving DecidableEq, Repr, Inhabited

namespace Operator

/-- The name of an operator. -/
def name : Operator → String
  | .eq => "eq"
  | .gt => "gt"
  | .gte => "gte"
  | .lt => "lt"
  | .lte => "lte"

/-- The sign that writes an operator in a query; equality has none. -/
def symbol : Operator → String
  | .eq => ""
  | .gt => ">"
  | .gte => ">="
  | .lt => "<"
  | .lte => "<="

/-- The operator that a text starts with, and the rest of the text. -/
def extract : List Char → Operator × List Char
  | '>' :: '=' :: cs => (.gte, cs)
  | '<' :: '=' :: cs => (.lte, cs)
  | '>' :: cs => (.gt, cs)
  | '<' :: cs => (.lt, cs)
  | cs => (.eq, cs)

/-- All operators. -/
def all : List Operator :=
  [.eq, .gt, .gte, .lt, .lte]

/-- The operator with a name. -/
def ofName? (s : String) : Option Operator :=
  all.find? (·.name == s)

end Operator

/-- What a token asks of a record. -/
inductive Filter where
  /-- A word that occurs somewhere in the record. -/
  | term (text : String)
  /-- A quoted text that occurs somewhere in the record. -/
  | phrase (text : String)
  /-- A comparison of the metadata value under a key. -/
  | metadata (key : String) (operator : Operator) (value : String)
  /-- The severity of the record. -/
  | level (level : String)
  /-- A comparison of the time of the record. -/
  | timestamp (operator : Operator) (instant : Moment)
  /-- A pattern that the source of the record contains. -/
  | source (pattern : String)
  deriving DecidableEq, Repr, Inhabited

/-- A filter, or the opposite of one. -/
structure Token where
  excluded : Bool
  filter : Filter
  deriving DecidableEq, Repr, Inhabited

/-- Equality of filters, moments being equal as instants. -/
def Filter.same : Filter → Filter → Bool
  | .timestamp op a, .timestamp op' b => op == op' && a.same b
  | f, g => f == g

/-- Equality of tokens, moments being equal as instants. -/
def Token.same (a b : Token) : Bool :=
  a.excluded == b.excluded && a.filter.same b.filter

/-- Equality of lists of tokens. -/
def Token.sameAll : List Token → List Token → Bool
  | [], ts => ts.isEmpty
  | a :: as, ts =>
    match ts with
    | b :: bs => a.same b && sameAll as bs
    | [] => false

/-- The name of a token's kind. -/
def Token.kind (t : Token) : String :=
  (if t.excluded then "Exclude" else "") ++
    match t.filter with
    | .term _ => if t.excluded then "" else "Term"
    | .phrase _ => "Phrase"
    | .metadata .. => "MetadataFilter"
    | .level _ => "LevelFilter"
    | .timestamp .. => "TimestampFilter"
    | .source _ => "SourceFilter"

end LogAlert
