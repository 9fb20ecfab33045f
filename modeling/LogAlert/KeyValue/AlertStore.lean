import LogAlert.Alert.Request
import LogAlert.Json.Writer
import LogAlert.KeyValue.Client

/-!
# Alerts in a key-value server

An alert store whose data is kept by a key-value server.  With a common beginning, the keys are

* `alerts` and `channels`, the sets of ids,
* `alert:ID` and `channel:ID`, the settings as documents,
* `alert:ID:channels`, the ids of the linked channels as a document,
* `cursor:ID`, the cursor as a table,
* `history:ID`, the triggers as documents, oldest first,
* `seq:alert`, `seq:channel` and `seq:history`, the last ids given.

Settings and cursor have keys of their own, so that writing the one never overwrites the other.
Writes of a cursor or a trigger watch the alert's keys and are tried again when someone else has
written there.  Failures of the server are reported as failures of the store.

## Main definitions

* `AlertStore` : the configuration of a store.
* `AlertStore.serve` : the script that answers a request.
* `AlertStore.ping` : whether the server answers.
-/

namespace LogAlert.KeyValue

/-- The configuration of a store: what its keys begin with, and how often a write is tried. -/
structure AlertStore where
  keyPrefix : String
  attempts : Int
  deriving Repr, Inhabited

namespace AlertStore

open Client

/-! ### Keys -/

/-- The key with the given parts. -/
def key (st : AlertStore) (parts : List String) : String :=
  String.intercalate ":" (st.keyPrefix :: parts)

/-- The key of the set of alert ids. -/
def alertsKey (st : AlertStore) : String := st.key ["alerts"]

/-- The key of the set of channel ids. -/
def channelsKey (st : AlertStore) : String := st.key ["channels"]

/-- The key of an alert's settings. -/
def alertKey (st : AlertStore) (id : String) : String := st.key ["alert", id]

/-- The key of an alert's links. -/
def linksKey (st : AlertStore) (id : String) : String := st.key ["alert", id, "channels"]

/-- The key of an alert's cursor. -/
def cursorKey (st : AlertStore) (id : String) : String := st.key ["cursor", id]

/-- The key of an alert's triggers. -/
def historyKey (st : AlertStore) (id : String) : String := st.key ["history", id]

/-- The key of a channel. -/
def channelKey (st : AlertStore) (id : String) : String := st.key ["channel", id]

/-- The key of a counter of ids. -/
def counterKey (st : AlertStore) (kind : String) : String := st.key ["seq", kind]

/-! ### Failures -/

/-- The failure of the server during an action, as a failure of the store. -/
def storeFailure (action : String) (e : Failure) : Failure :=
  if e.isClient then .store ("failed to " ++ action ++ ": " ++ e.text) else e

/-- A script whose failures of the server are failures of the store. -/
def guarded {α : Type} (action : String) (s : Script Client α) : Script Client α := do
  match ← s.attempt with
  | .ok a => pure a
  | .error e => .fail (storeFailure action e)

/-- A script that is tried again, up to a number of times in all, when it loses a race. -/
def retry {α : Type} (action : String) (lost : Failure) (s : Script Client α) :
    Nat → Script Client α
  | 0 => .fail lost
  | n + 1 => do
    match ← s.attempt with
    | .ok a => pure a
    | .error e =>
      if e.isRace then retry action lost s n else .fail (storeFailure action e)

/-- The failure after the last try. -/
def lostRaces (st : AlertStore) (write : String) (id : Option Int) : Failure :=
  .store (write ++ " for alert " ++ idText id ++ " lost " ++ toString st.attempts ++ " races")

/-! ### Channels -/

/-- The channel with an id, given as text. -/
def readChannel (st : AlertStore) (id : String) : Script Client (Option Channel) := do
  begins "get_channel"
  let raw ← guarded ("read channel " ++ id) (read (.get (st.channelKey id)))
  match raw with
  | some raw => some <$> .ofExcept (Channel.decode raw)
  | none => pure none

/-- The channels with the given ids, without those that do not exist. -/
def readChannels (st : AlertStore) (ids : List String) : Script Client (List Channel) := do
  let found ← Script.mapList st.readChannel ids
  pure (found.filterMap id)

/-- The ids in a document of links. -/
def linkedIds (v : Json) : Except Failure (List String) :=
  match v with
  | .arr items => .ok (items.map Json.display)
  | .obj fields => .ok (Table.keys fields)
  | .str s => .ok (s.toList.map fun c => String.ofList [c])
  | v => .error (.type ("'" ++ v.kindName ++ "' object is not iterable"))

/-- The channels that an alert is linked to. -/
def readLinks (st : AlertStore) (id : String) : Script Client (List Channel) := do
  match ← read (.get (st.linksKey id)) with
  | none => pure []
  | some raw =>
    if raw == "" then pure []
    else
      let ids ← .ofExcept (do linkedIds (← Document.read raw))
      st.readChannels ids

/-- The integers of a set of ids, ascending. -/
def sortedIds (members : List String) : Except Failure (List Int) := do
  let ids ← members.mapM Cursor.readStoredInt
  .ok (ids.mergeSort fun a b => a ≤ b)

/-- The next id of a kind. -/
def nextId (st : AlertStore) (kind : String) : Script Client Int :=
  write (.increment (st.counterKey kind))

/-- Stores a channel, under the next id if it has none. -/
def saveChannel (st : AlertStore) (c : Channel) : Script Client Channel := do
  begins "save_channel"
  let action (c : Channel) := "save channel " ++ idText c.id
  let c ← match c.id with
    | some _ => pure c
    | none => do
      let id ← guarded (action c) (st.nextId "channel")
      pure { c with id := some id }
  let document ← .ofExcept c.encode
  let id := idText c.id
  let _ ← guarded (action c)
    (transact [.set (st.channelKey id) document, .insert st.channelsKey id])
  pure c

/-- All channels of an owner. -/
def listChannels (st : AlertStore) (owner : Json) : Script Client (List Channel) := do
  begins "list_channels"
  let members ← guarded "list channels" (read (.members st.channelsKey))
  let ids ← .ofExcept (sortedIds members)
  let channels ← st.readChannels (ids.map toString)
  pure (channels.filter fun c => ownerFits owner c.ownerId)

/-- Whether the first command of a transaction changed something. -/
def changedFirst (counts : List Int) : Bool :=
  match counts with
  | n :: _ => n != 0
  | [] => false

/-- Removes a channel. -/
def deleteChannel (st : AlertStore) (id : Option Int) : Script Client Bool := do
  begins "delete_channel"
  let id := idText id
  changedFirst <$> guarded ("delete channel " ++ id)
    (transact [.remove st.channelsKey id, .delete [st.channelKey id]])

/-! ### Alerts -/

/-- The alert with an id. -/
def readAlert (st : AlertStore) (id : String) : Script Client (Option Alert) := do
  match ← read (.get (st.alertKey id)) with
  | none => pure none
  | some raw =>
    let a ← .ofExcept (Alert.decode raw)
    let entries ← read (.entries (st.cursorKey id))
    let cursor ← .ofExcept (Cursor.decode entries)
    let channels ← st.readLinks id
    pure (some { a with cursor, channels })

/-- The alert with an id. -/
def get (st : AlertStore) (id : Option Int) : Script Client (Option Alert) := do
  begins "get"
  guarded ("read alert " ++ idText id) (st.readAlert (idText id))

/-- All alerts of an owner. -/
def listAlerts (st : AlertStore) (owner : Json) : Script Client (List Alert) := do
  begins "list_alerts"
  let found ← guarded "list alerts" do
    let members ← read (.members st.alertsKey)
    let ids ← .ofExcept (sortedIds members)
    Script.mapList st.readAlert (ids.map toString)
  pure ((found.filterMap id).filter fun a => ownerFits owner a.settings.ownerId)

/-- All enabled alerts. -/
def listEnabled (st : AlertStore) : Script Client (List Alert) := do
  begins "list_enabled"
  let found ← st.listAlerts .null
  pure (found.filter fun a => a.settings.enabled.isTruthy)

/-- The commands that store an alert's settings, and its cursor if the baseline is reset. -/
def saveCommands (st : AlertStore) (a : Alert) (document : String) (resetBaseline : Bool) :
    List Write :=
  let id := idText a.id
  let entries := a.cursor.encode
  [.set (st.alertKey id) document, .insert st.alertsKey id] ++
    (if resetBaseline then
      .delete [st.cursorKey id] ::
        (if entries.isEmpty then [] else [.putEntries (st.cursorKey id) entries])
    else [])

/-- Stores the settings of an alert, under the next id if it has none. -/
def save (st : AlertStore) (a : Alert) (resetBaseline : Bool) : Script Client (Option Alert) := do
  begins "save"
  let action (a : Alert) := "save alert " ++ idText a.id
  let (a, resetBaseline) ← match a.id with
    | some _ => pure (a, resetBaseline)
    | none => do
      let id ← guarded (action a) (st.nextId "alert")
      pure ({ a with id := some id }, true)
  let document ← .ofExcept a.encode
  let _ ← guarded (action a) (transact (st.saveCommands a document resetBaseline))
  st.get a.id

/-- Removes an alert with its links, its cursor and its history. -/
def delete (st : AlertStore) (id : Option Int) : Script Client Bool := do
  begins "delete"
  let id := idText id
  changedFirst <$> guarded ("delete alert " ++ id)
    (transact
      [.remove st.alertsKey id,
        .delete [st.alertKey id, st.linksKey id, st.cursorKey id, st.historyKey id]])

/-- Links an alert to channels. -/
def setChannels (st : AlertStore) (id : Option Int) (channelIds : List Int) :
    Script Client Unit := do
  begins "set_channels"
  let document := (Json.arr (channelIds.eraseDups.map .int)).write
  let _ ← guarded ("link channels for alert " ++ idText id)
    (write (.set (st.linksKey (idText id)) document))
  pure ()

/-! ### Progress -/

/-- The alert must exist. -/
def checkExists (st : AlertStore) (id : Option Int) : Script Client Unit := do
  if ← read (.has (st.alertKey (idText id))) then pure () else .fail (noSuchAlert id)

/-- One try of moving the cursor of an alert. -/
def tryUpdateCursor (st : AlertStore) (a : Alert) (update : Cursor) : Script Client Alert := do
  let id := idText a.id
  watch [st.cursorKey id, st.alertKey id]
  st.checkExists a.id
  let entries ← read (.entries (st.cursorKey id))
  let stored ← .ofExcept (Cursor.decode entries)
  let changes := stored.changes update
  let _ ← commit (if changes.isEmpty then [] else [.putEntries (st.cursorKey id) changes.encode])
  pure { a with cursor := stored.write changes }

/-- Moves the cursor of an alert. -/
def updateCursor (st : AlertStore) (a : Alert) (update : Cursor) : Script Client Alert := do
  begins "update_cursor"
  retry ("update cursor for alert " ++ idText a.id) (st.lostRaces "cursor update" a.id)
    (st.tryUpdateCursor a update) st.attempts.toNat

/-- One try of recording a trigger.  The id is taken before the trigger is written. -/
def tryCreateHistory (st : AlertStore) (a : Alert) (type data notifications : Json)
    (time : Moment) : Script Client History := do
  let id := idText a.id
  watch [st.alertKey id]
  st.checkExists a.id
  let rowId ← st.nextId "history"
  let type ← .ofExcept (AlertType.ofJson type)
  let row : History :=
    { id := some rowId, alertId := a.id, type, data, notifications, triggeredAt := time }
  let _ ← commit [.push (st.historyKey id) row.encode]
  pure row

/-- Records a trigger of an alert. -/
def createHistory (st : AlertStore) (a : Alert) (type data notifications : Json)
    (time : Moment) : Script Client History := do
  begins "create_history"
  retry ("record history for alert " ++ idText a.id) (st.lostRaces "history write" a.id)
    (st.tryCreateHistory a type data notifications time) st.attempts.toNat

/-- The triggers of an alert, latest first. -/
def listHistory (st : AlertStore) (id : Option Int) (limit : Int) :
    Script Client (List History) := do
  begins "list_history"
  let raw ← guarded ("read history for alert " ++ idText id)
    (read (.range (st.historyKey (idText id)) (-limit) (-1)))
  .ofExcept (raw.reverse.mapM History.decode)

/-- Whether the server answers. -/
def ping : Script Client Bool := do
  begins "ping"
  match ← (read .ping).attempt with
  | .ok answer => pure answer
  | .error e => if e.isClient then pure false else .fail e

/-- The script that answers a request to the store. -/
def serve (st : AlertStore) (r : AlertRequest) : Script Client r.Answer :=
  match r with
  | .listEnabled => st.listEnabled
  | .listAlerts owner => st.listAlerts owner
  | .get id => st.get id
  | .save a resetBaseline => st.save a resetBaseline
  | .delete id => st.delete id
  | .setChannels id channelIds => st.setChannels id channelIds
  | .updateCursor a update => st.updateCursor a update
  | .createHistory a type data notifications time => st.createHistory a type data notifications time
  | .listHistory id limit => st.listHistory id limit
  | .saveChannel c => st.saveChannel c
  | .getChannel id => st.readChannel (idText id)
  | .listChannels owner => st.listChannels owner
  | .deleteChannel id => st.deleteChannel id

end AlertStore

end LogAlert.KeyValue
