import LogAlert.Query.Instant
import LogAlert.Query.Lexeme
import LogAlert.Query.Token
import LogAlert.Text.Search

/-!
# The canonical form of queries

Tokens written as a query that reads back to the same tokens.

## Main definitions

* `Query.quote` : a text between quotation marks.
* `Query.instantText` : a moment in UTC, as a date if it is a midnight.
* `Query.render` : one token as query text.
* `Query.toQuery` : tokens as a query.
-/

namespace LogAlert.Query

/-- A text between quotation marks, those inside it escaped. -/
def quote (cs : List Char) : List Char :=
  '"' :: (Text.replace '"' ['\\', '"'] cs ++ ['"'])

/-- A value as it is if it consists of bare characters, and quoted otherwise. -/
def valueText (cs : List Char) : List Char :=
  if Lexeme.Body.bare.fits cs then cs else quote cs

/-- A moment in UTC: the date alone if it is a midnight, and the compact layout otherwise, in
which a year has no leading zeros. -/
def instantText (m : Moment) : Except Failure (List Char) := do
  let utc ← Instant.toUtc m
  let d := utc.date
  let time := utc.timeOfDay
  if time == 0 then .ok d.isoText
  else
    let seconds := (time / Span.second).toNat
    .ok (Nat.toDigits 10 d.year ++ padded 2 d.month ++ padded 2 d.day ++ 'T' ::
      padded 2 (seconds / 3600) ++ padded 2 (seconds / 60 % 60) ++ padded 2 (seconds % 60) ++ ['Z'])

/-- A filter as query text. -/
def renderFilter : Filter → Except Failure (List Char)
  | .term text => .ok text.toList
  | .phrase text => .ok (quote text.toList)
  | .metadata key operator value =>
    let written := if operator == .eq then valueText value.toList else value.toList
    .ok (key.toList ++ ':' :: operator.symbol.toList ++ written)
  | .level level => .ok ("level:".toList ++ level.toList)
  | .timestamp operator instant => do
    let written ← instantText instant
    .ok ("timestamp:".toList ++ operator.symbol.toList ++ written)
  | .source pattern => .ok ("source:".toList ++ valueText pattern.toList)

/-- A token as query text. -/
def render (t : Token) : Except Failure (List Char) := do
  let text ← renderFilter t.filter
  .ok (if t.excluded then '-' :: text else text)

/-- The texts of tokens. -/
def renderAll : List Token → Except Failure (List (List Char))
  | [] => .ok []
  | t :: ts => do
    let text ← render t
    let texts ← renderAll ts
    .ok (text :: texts)

/-- Tokens as a query, separated by blanks. -/
def toQuery (tokens : List Token) : Except Failure (List Char) := do
  let texts ← renderAll tokens
  .ok (Text.join [' '] texts)

end LogAlert.Query
