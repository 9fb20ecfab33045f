import LogAlert.Calendar.Moment
import LogAlert.Failure

/-!
# Alerts

An alert is a saved query that notifies when logs answer it.  Its settings are made by users
and may hold any values until they are validated; its cursor tells how far evaluation has come
and is written by the engine alone.

## Main definitions

* `AlertType`, `ChannelType` : the kinds of alerts and of notification channels.
* `Channel`, `AlertSettings`, `Cursor`, `Alert` : alerts and their parts.
* `History` : one trigger of an alert.
-/

namespace LogAlert

/-- What makes an alert trigger: any record, or many records in a window of time. -/
inductive AlertType where
  | anyMatch
  | velocity
  deriving DecidableEq, Repr, Inhabited

namespace AlertType

/-- All types, in the order in which messages list them. -/
def all : List AlertType :=
  [.anyMatch, .velocity]

/-- The name of a type. -/
def name : AlertType → String
  | .anyMatch => "any_match"
  | .velocity => "velocity"

/-- The type that a value names. -/
def ofJson? (v : Json) : Option AlertType :=
  all.find? fun t => v == .str t.name

/-- The type that a value has to name. -/
def ofJson (v : Json) : Except Failure AlertType :=
  match ofJson? v with
  | some t => .ok t
  | none => .error (.value (v.inspect ++ " is not a valid AlertType"))

end AlertType

/-- The ways of notification. -/
inductive ChannelType where
  | email
  | pushover
  | slack
  deriving DecidableEq, Repr, Inhabited

namespace ChannelType

/-- All types, in the order in which messages list them. -/
def all : List ChannelType :=
  [.email, .pushover, .slack]

/-- The name of a type. -/
def name : ChannelType → String
  | .email => "email"
  | .pushover => "pushover"
  | .slack => "slack"

/-- The type that a value names. -/
def ofJson? (v : Json) : Option ChannelType :=
  all.find? fun t => v == .str t.name

/-- The type that a value has to name. -/
def ofJson (v : Json) : Except Failure ChannelType :=
  match ofJson? v with
  | some t => .ok t
  | none => .error (.value (v.inspect ++ " is not a valid ChannelType"))

end ChannelType

/-- A target of notifications. -/
structure Channel where
  type : Json
  name : Json
  config : Json
  enabled : Json
  ownerId : Json
  id : Option Int
  deriving Repr, Inhabited, BEq

/-- What users set of an alert. -/
structure AlertSettings where
  name : Json
  searchQuery : Json
  type : Json
  description : Json
  enabled : Json
  threshold : Json
  window : Json
  cooldown : Json
  ownerId : Json
  deriving Repr, Inhabited, BEq

/-- How far the evaluation of an alert has come: the last record seen, and the times of the
last trigger and of the last check.  As an update, what is absent stays as it is. -/
structure Cursor where
  lastSeen : Option Int
  lastTriggered : Option Moment
  lastChecked : Option Moment
  deriving DecidableEq, Repr, Inhabited

namespace Cursor

/-- The cursor of an alert that was never evaluated, and the update that changes nothing. -/
def empty : Cursor :=
  ⟨none, none, none⟩

/-- Whether an update changes nothing. -/
def isEmpty (c : Cursor) : Bool :=
  c.lastSeen.isNone && c.lastTriggered.isNone && c.lastChecked.isNone

/-- The changes that an update makes to a stored cursor: a record seen that is older than the
stored one is dropped. -/
def changes (stored update : Cursor) : Cursor :=
  { update with
    lastSeen := update.lastSeen.filter fun seen =>
      match stored.lastSeen with
      | some last => last ≤ seen
      | none => true }

/-- A cursor with changes written to it. -/
def write (stored changes : Cursor) : Cursor :=
  { lastSeen := changes.lastSeen.or stored.lastSeen
    lastTriggered := changes.lastTriggered.or stored.lastTriggered
    lastChecked := changes.lastChecked.or stored.lastChecked }

/-- A cursor after an update. -/
def advance (stored update : Cursor) : Cursor :=
  stored.write (stored.changes update)

end Cursor

/-- An alert. -/
structure Alert where
  id : Option Int
  settings : AlertSettings
  channels : List Channel
  cursor : Cursor
  deriving Repr, Inhabited, BEq

/-- One trigger of an alert. -/
structure History where
  id : Option Int
  alertId : Option Int
  type : AlertType
  data : Json
  notifications : Json
  triggeredAt : Moment
  deriving Repr, Inhabited

/-- An id as a message shows it. -/
def idText (id : Option Int) : String :=
  (Json.ofInt? id).display

end LogAlert
