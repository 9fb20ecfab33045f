import LogAlert.Alert.Basic

/-!
# Requests to an alert store

What an alert store can be asked.  Two of the requests write to an alert: `save` writes its
settings and leaves the cursor of an existing alert alone unless the baseline is to be reset,
and `updateCursor` writes its cursor alone, in which the record seen never moves backwards.

## Main definitions

* `AlertRequest`, `AlertRequest.Answer` : the requests and their answers.
-/

namespace LogAlert

/-- A request to an alert store.  An absent owner stands for all owners. -/
inductive AlertRequest where
  | listEnabled
  | listAlerts (owner : Json)
  | get (id : Option Int)
  | save (alert : Alert) (resetBaseline : Bool)
  | delete (id : Option Int)
  | setChannels (id : Option Int) (channelIds : List Int)
  | updateCursor (alert : Alert) (update : Cursor)
  | createHistory (alert : Alert) (type : Json) (data notifications : Json) (time : Moment)
  | listHistory (id : Option Int) (limit : Int)
  | saveChannel (channel : Channel)
  | getChannel (id : Option Int)
  | listChannels (owner : Json)
  | deleteChannel (id : Option Int)
  deriving Repr, Inhabited

namespace AlertRequest

/-- What a request is answered with. -/
@[reducible] def Answer : AlertRequest → Type
  | listEnabled | listAlerts _ => List Alert
  | get _ | save .. => Option Alert
  | delete _ | deleteChannel _ => Bool
  | setChannels .. => Unit
  | updateCursor .. => Alert
  | createHistory .. => History
  | listHistory .. => List History
  | saveChannel _ => Channel
  | getChannel _ => Option Channel
  | listChannels _ => List Channel

/-- The name of a request. -/
def name : AlertRequest → String
  | listEnabled => "list_enabled"
  | listAlerts _ => "list_alerts"
  | get _ => "get"
  | save .. => "save"
  | delete _ => "delete"
  | setChannels .. => "set_channels"
  | updateCursor .. => "update_cursor"
  | createHistory .. => "create_history"
  | listHistory .. => "list_history"
  | saveChannel _ => "save_channel"
  | getChannel _ => "get_channel"
  | listChannels _ => "list_channels"
  | deleteChannel _ => "delete_channel"

end AlertRequest

/-- The failure of a request about an alert that is not there. -/
def noSuchAlert (id : Option Int) : Failure :=
  .store ("alert " ++ idText id ++ " does not exist")

/-- Whether an alert or a channel with the given owner is asked for. -/
def ownerFits (asked owner : Json) : Bool :=
  asked.isNull || owner.same asked

end LogAlert
