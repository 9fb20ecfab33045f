import LogAlert.Failure
import LogAlert.Log.Level
import LogAlert.Log.Stamp

/-!
# Log records

A record is a log entry with its place in a store: the time, severity, message and source of
the entry, and all other fields as metadata.

## Main definitions

* `Record` : the records.
* `Record.ofEntry` : the record of a log entry.
* `Record.toJson` : a record as a document.
-/

namespace LogAlert

/-- A stored log entry. -/
structure Record where
  id : Int
  timestamp : Moment
  level : String
  message : String
  source : String
  metadata : Json.Fields
  deriving Repr, Inhabited

namespace Record

/-- The text of a field that may be absent or empty. -/
def textOf (v : Option Json) : String :=
  match v with
  | some v => if v.isTruthy then v.display else ""
  | none => ""

/-- The keys that have fields of their own in a record. -/
def ownKeys : List String :=
  ["timestamp", "level", "message", "source"]

/-- The record of a log entry, which must have a usable time. -/
def ofEntry (id : Int) (entry : Json.Fields) : Except Failure Record :=
  let stamp := (Json.field? entry "timestamp").getD .null
  match Stamp.read? stamp with
  | none => .error (.value ("no usable timestamp: " ++ stamp.inspect))
  | some timestamp => .ok
    { id
      timestamp
      level := Level.normalize ((Json.field? entry "level").getD .null)
      message := textOf (Json.field? entry "message")
      source := textOf (Json.field? entry "source")
      metadata := entry.filter fun f => !ownKeys.contains f.1 }

/-- A record as a document. -/
def toJson (r : Record) : Json :=
  .obj [("id", .int r.id), ("timestamp", .str r.timestamp.isoText), ("level", .str r.level),
    ("message", .str r.message), ("source", .str r.source), ("metadata", .obj r.metadata)]

end Record

end LogAlert
