import LogAlert.Log.Record
import LogAlert.Match.Comparison
import LogAlert.Match.Pattern

/-!
# Records that answer tokens

When a log record answers a token, and when it answers all of a list of tokens.

## Main definitions

* `Filter.holds`, `Token.holds` : whether a record answers a filter or a token.
* `Token.holdAll` : whether a record answers every token, asked in order up to the first
  refusal.
-/

namespace LogAlert

namespace Match

/-- Whether one of the values contains a text, asked in order up to the first that does. -/
def valuesContain (text : String) : Json.Fields → Except Failure Bool
  | [] => .ok false
  | f :: fs => do
    if containsFolded text (← textOf f.2) then .ok true else valuesContain text fs

/-- Whether the record's message or one of its metadata values contains a text. -/
def containsText (r : Record) (text : String) : Except Failure Bool :=
  if containsFolded text r.message then .ok true else valuesContain text r.metadata

/-- Whether the metadata value under a key compares as asked. -/
def metadataMatches (r : Record) (key : String) (op : Operator) (value : String) :
    Except Failure Bool :=
  match lookup? r.metadata key with
  | some actual => compare actual op value
  | none => .ok false

/-- Whether the record, or the field `level` of its metadata, has a severity. -/
def levelMatches (r : Record) (level : String) : Bool :=
  r.level == level ||
    match Json.field? r.metadata "level" with
    | some (.str s) => Text.lower s.toList == level.toList
    | _ => false

/-- Whether a pattern matches the record's source or the field `source` of its metadata. -/
def sourceMatches (r : Record) (pattern : String) : Bool :=
  Pattern.occursIn pattern r.source ||
    match Json.field? r.metadata "source" with
    | some (.str s) => Pattern.occursIn pattern s
    | _ => false

/-- The answer to a comparison of moments, which fails for moments that do not compare. -/
def decided (answer : Option Bool) : Except Failure Bool :=
  match answer with
  | some b => .ok b
  | none => .error (.type "can't compare offset-naive and offset-aware datetimes")

/-- Whether a time stands in the given relation to an instant.  Equal to a midnight in UTC is
the whole day from it on, and to any other instant the second from it on. -/
def timeMatches (time : Moment) (op : Operator) (instant : Moment) : Except Failure Bool :=
  let time := time.assumeUtc
  match op with
  | .gt => decided (instant.before? time)
  | .gte => decided (instant.atMost? time)
  | .lt => decided (time.before? instant)
  | .lte => decided (time.atMost? instant)
  | .eq => do
    let utc ← Instant.toUtc instant
    let length := if utc.timeOfDay == 0 then Span.day else Span.second
    if ← decided (instant.atMost? time) then
      match instant.shift? length with
      | some stop => decided (time.before? stop)
      | none => .error .dateOverflow
    else .ok false

end Match

/-- Whether a record answers a filter. -/
def Filter.holds (f : Filter) (r : Record) : Except Failure Bool :=
  match f with
  | .term text | .phrase text => Match.containsText r text
  | .metadata key op value => Match.metadataMatches r key op value
  | .level name => .ok (Match.levelMatches r name)
  | .timestamp op m => Match.timeMatches r.timestamp op m
  | .source p => .ok (Match.sourceMatches r p)

/-- Whether a record answers a token. -/
def Token.holds (t : Token) (r : Record) : Except Failure Bool := do
  let b ← t.filter.holds r
  .ok (b != t.excluded)

/-- Whether a record answers every token.  After the first refusal no further token is
asked. -/
def Token.holdAll : List Token → Record → Except Failure Bool
  | [], _ => .ok true
  | t :: ts, r => do
    if ← t.holds r then holdAll ts r else .ok false

end LogAlert
