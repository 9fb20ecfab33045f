import LogAlert.Alert.Basic
import LogAlert.Calendar.Iso
import LogAlert.Json.Reader
import LogAlert.Json.Writer
import LogAlert.Table

/-!
# Stored forms

The texts under which alerts, channels, cursors and triggers are stored.  Settings, channels
and triggers are JSON objects with their fields in a fixed order; a cursor is a table of texts
that has an entry for each part that is present.

## Main definitions

* `Alert.encode`, `Alert.decode` : the settings of an alert.
* `Channel.encode`, `Channel.decode` : a channel.
* `Cursor.encode`, `Cursor.decode` : a cursor.
* `History.encode`, `History.decode` : a trigger.
-/

namespace LogAlert

/-- A moment that is stored in the form of ISO 8601. -/
def readStoredMoment (s : String) : Except Failure Moment :=
  match Iso.readMoment s.toList with
  | .ok m => .ok m
  | .error problem => .error (.value (problem.message s.toList))

/-! ### Documents -/

namespace Document

/-- The value of a stored document. -/
def read (raw : String) : Except Failure Json :=
  match Json.read raw.toList with
  | .ok v => .ok v
  | .error e => .error (.ofSyntax e)

/-- Why a value that is no object has no fields. -/
def notObject (v : Json) : Failure :=
  match v with
  | .arr _ => .type "list indices must be integers or slices, not str"
  | .str _ => .type "string indices must be integers, not 'str'"
  | v => .type ("'" ++ v.kindName ++ "' object is not subscriptable")

/-- The fields of an object. -/
def fields : Json → Except Failure Json.Fields
  | .obj fields => .ok fields
  | v => .error (notObject v)

/-- A field that must be there. -/
def field (fields : Json.Fields) (key : String) : Except Failure Json :=
  match Json.field? fields key with
  | some v => .ok v
  | none => .error ⟨.key, [.str key]⟩

/-- Texts between single quotation marks, joined for a sentence. -/
def listing : List String → String
  | [] => ""
  | [a] => "'" ++ a ++ "'"
  | [a, b] => "'" ++ a ++ "' and '" ++ b ++ "'"
  | a :: rest => "'" ++ a ++ "', " ++ listing rest

/-- A document for `owner` has all the required fields and none but the known ones. -/
def checkKeys (owner : String) (required known : List String) (fields : Json.Fields) :
    Except Failure Unit :=
  match fields.keys.find? fun key => !known.contains key with
  | some key =>
    .error (.type (owner ++ ".__init__() got an unexpected keyword argument '" ++ key ++ "'"))
  | none =>
    let missing := required.filter fun key => !fields.has key
    if missing.isEmpty then .ok ()
    else
      .error (.type (owner ++ ".__init__() missing " ++ toString missing.length ++
        " required positional argument" ++ (if missing.length == 1 then "" else "s") ++ ": " ++
        listing missing))

/-- The integer that a field holds, if it holds one. -/
def int? : Option Json → Option Int
  | some (.int n) => some n
  | _ => none

end Document

/-! ### Alerts -/

namespace Alert

/-- The stored form of an alert's settings. -/
def encode (a : Alert) : Except Failure String := do
  let s := a.settings
  let type ← AlertType.ofJson s.type
  .ok (Json.obj
    [("id", .ofInt? a.id), ("owner_id", s.ownerId), ("name", s.name),
      ("description", s.description), ("enabled", s.enabled), ("search_query", s.searchQuery),
      ("alert_type", .str type.name), ("velocity_threshold", s.threshold),
      ("velocity_window_seconds", s.window), ("cooldown_seconds", s.cooldown)]).write

/-- The fields that a stored alert may have. -/
def knownKeys : List String :=
  ["name", "search_query", "alert_type", "description", "enabled", "velocity_threshold",
    "velocity_window_seconds", "cooldown_seconds", "owner_id", "id", "channels",
    "last_seen_log_id", "last_triggered_at", "last_checked_at"]

/-- The cooldown of an alert whose settings name none. -/
def standardCooldown : Json := .int 300

/-- The settings of an alert by its fields; absent ones have their standard values. -/
def settingsOf (fields : Json.Fields) (type : Json) : AlertSettings :=
  let get (key : String) (standard : Json) : Json := (Json.field? fields key).getD standard
  { name := get "name" (.str "")
    searchQuery := get "search_query" (.str "")
    type
    description := get "description" (.str "")
    enabled := get "enabled" (.bool true)
    threshold := get "velocity_threshold" .null
    window := get "velocity_window_seconds" .null
    cooldown := get "cooldown_seconds" standardCooldown
    ownerId := get "owner_id" .null }

/-- The alert of a stored form, without channels and cursor. -/
def decode (raw : String) : Except Failure Alert := do
  let fields ← Document.fields (← Document.read raw)
  let type ← AlertType.ofJson (← Document.field fields "alert_type")
  Document.checkKeys "Alert" ["name", "search_query"] knownKeys fields
  .ok
    { id := Document.int? (Json.field? fields "id")
      settings := settingsOf fields (.str type.name)
      channels := []
      cursor := .empty }

end Alert

/-! ### Channels -/

namespace Channel

/-- The stored form of a channel. -/
def encode (c : Channel) : Except Failure String := do
  let type ← ChannelType.ofJson c.type
  .ok (Json.obj
    [("channel_type", .str type.name), ("name", c.name), ("config", c.config),
      ("enabled", c.enabled), ("owner_id", c.ownerId), ("id", .ofInt? c.id)]).write

/-- The fields that a stored channel may have. -/
def knownKeys : List String :=
  ["channel_type", "name", "config", "enabled", "owner_id", "id"]

/-- The channel with the given fields; absent ones have their standard values. -/
def ofFields (fields : Json.Fields) (type : Json) : Channel :=
  let get (key : String) (standard : Json) : Json := (Json.field? fields key).getD standard
  { type
    name := get "name" (.str "")
    config := get "config" (.obj [])
    enabled := get "enabled" (.bool true)
    ownerId := get "owner_id" .null
    id := Document.int? (Json.field? fields "id") }

/-- The channel of a stored form. -/
def decode (raw : String) : Except Failure Channel := do
  let fields ← Document.fields (← Document.read raw)
  let type ← ChannelType.ofJson (← Document.field fields "channel_type")
  Document.checkKeys "NotificationChannel" ["name"] knownKeys fields
  .ok (ofFields fields (.str type.name))

end Channel

/-! ### Cursors -/

namespace Cursor

/-- The entries of a cursor, for the parts that are present. -/
def encode (c : Cursor) : Table String String :=
  (c.lastSeen.map fun n => ("last_seen_log_id", String.ofList (Json.intText n))).toList ++
    (c.lastTriggered.map fun m => ("last_triggered_at", m.isoText)).toList ++
    (c.lastChecked.map fun m => ("last_checked_at", m.isoText)).toList

/-- The digits that a text starts with, blanks and a sign aside. -/
def leadingDigits (cs : List Char) : List Char :=
  let (_, body) := Number.splitSign (Number.trim cs)
  (Number.dropSeparators false (body.takeWhile fun c => Text.isDecimal c || c == '_')).getD []

/-- A stored integer.  The refusal of another text shows at most 200 characters of it. -/
def readStoredInt (s : String) : Except Failure Int :=
  let digits := (leadingDigits s.toList).length
  if Number.digitLimit < digits then .error (.value (Json.Problem.tooManyDigits digits).message)
  else
    match Number.readInt? s.toList with
    | some n => .ok n
    | none =>
      .error (.value ("invalid literal for int() with base 10: " ++
        String.ofList ((Json.str s).inspectChars.take 200)))

/-- A part of a cursor, absent if there is no entry or an empty one. -/
def part {α : Type} (entries : Table String String) (key : String)
    (read : String → Except Failure α) : Except Failure (Option α) :=
  match entries.get? key with
  | none => .ok none
  | some s => if s == "" then .ok none else (read s).map some

/-- The cursor of entries. -/
def decode (entries : Table String String) : Except Failure Cursor := do
  let lastSeen ← part entries "last_seen_log_id" readStoredInt
  let lastTriggered ← part entries "last_triggered_at" readStoredMoment
  let lastChecked ← part entries "last_checked_at" readStoredMoment
  .ok { lastSeen, lastTriggered, lastChecked }

end Cursor

/-! ### Triggers -/

namespace History

/-- The stored form of a trigger. -/
def encode (h : History) : String :=
  (Json.obj
    [("id", .ofInt? h.id), ("alert_id", .ofInt? h.alertId), ("trigger_type", .str h.type.name),
      ("trigger_data", h.data), ("notifications_sent", h.notifications),
      ("triggered_at", .str h.triggeredAt.isoText)]).write

/-- The trigger of a stored form. -/
def decode (raw : String) : Except Failure History := do
  let document ← Document.read raw
  let fields ← Document.fields document
  let id ← Document.field fields "id"
  let alertId ← Document.field fields "alert_id"
  let type ← AlertType.ofJson (← Document.field fields "trigger_type")
  let data ← Document.field fields "trigger_data"
  let notifications ← Document.field fields "notifications_sent"
  match ← Document.field fields "triggered_at" with
  | .str s =>
    let triggeredAt ← readStoredMoment s
    .ok
      { id := Document.int? id, alertId := Document.int? alertId, type, data, notifications,
        triggeredAt }
  | _ => .error (.type "fromisoformat: argument must be str")

end History

end LogAlert
