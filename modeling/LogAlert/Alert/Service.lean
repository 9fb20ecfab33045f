import LogAlert.Alert.Validation
import LogAlert.Engine.Request

/-!
# Administration of alerts

What users do with alerts and channels.  Settings are validated before they are stored.  New
alerts and alerts that are enabled again start from the newest record of the log store, so that
older records never trigger them.

## Main definitions

* `Service.createAlert`, `Service.updateAlert`, `Service.toggleAlert`, `Service.deleteAlert`,
  `Service.listAlerts`, `Service.history` : alerts.
* `Service.createChannel`, `Service.updateChannel`, `Service.deleteChannel`,
  `Service.listChannels` : channels.
-/

namespace LogAlert.Service

open Engine

/-- The refusal of a channel that an alert cannot be linked to. -/
def unknownChannel (id : Int) : Failure :=
  .config "channel_ids" ("unknown notification channel " ++ toString id)

/-- Whether an alert with an owner may use a channel: the channel has no owner or the same. -/
def mayUse (owner : Json) (c : Channel) : Bool :=
  owner.isNull || c.ownerId.isNull || c.ownerId.same owner

/-- The channels that an alert is to be linked to must exist and be open to its owner. -/
def checkChannels (owner : Json) : List Int → Script Engine Unit
  | [] => pure ()
  | id :: ids => do
    match ← alerts (.getChannel (some id)) with
    | some c => if mayUse owner c then checkChannels owner ids else .fail (unknownChannel id)
    | none => .fail (unknownChannel id)

/-- An alert that was stored. -/
def stored (a : Option Alert) : Script Engine Alert :=
  match a with
  | some a => pure a
  | none => .fail (.lacks .null "id")

/-- The stored alert as it is read again, or as it was stored if it is gone. -/
def reread (a : Alert) : Script Engine Alert := do
  let found ← alerts (.get a.id)
  pure (found.getD a)

/-- Stores a new alert. -/
def createAlert (a : Alert) (channelIds : List Int) : Script Engine Alert := do
  .ofExcept a.validate
  checkChannels a.settings.ownerId channelIds
  let newest ← logs .maxId
  let baseline := { a with id := none, channels := [], cursor := { Cursor.empty with lastSeen := newest } }
  let created ← stored (← alerts (.save baseline true))
  if !channelIds.isEmpty then alerts (.setChannels created.id channelIds)
  reread created

/-- Stores the settings of an alert, and its links if channels are given. -/
def updateAlert (a : Alert) (channelIds : Option (List Int)) : Script Engine Alert := do
  if a.id.isNone then .fail (.config "id" "alert has not been created")
  .ofExcept a.validate
  let saved ← alerts (.save a false)
  match channelIds with
  | some ids => do
    checkChannels a.settings.ownerId ids
    let saved ← stored saved
    alerts (.setChannels saved.id ids)
    reread saved
  | none => do
    let saved ← stored saved
    reread saved

/-- An alert with other values of `enabled` and of the cursor. -/
def switched (a : Alert) (enabled : Bool) (cursor : Cursor) : Alert :=
  { a with settings := { a.settings with enabled := .bool enabled }, cursor }

/-- Disables an alert, or enables it and moves its baseline to the newest record. -/
def toggleAlert (a : Alert) : Script Engine (Option Alert) := do
  match ← alerts (.get a.id) with
  | none => .fail (.config "id" ("alert " ++ idText a.id ++ " does not exist"))
  | some current =>
    if current.settings.enabled.isTruthy then
      alerts (.save (switched current false current.cursor) false)
    else do
      let newest ← logs .maxId
      alerts (.save (switched current true { current.cursor with lastSeen := newest }) true)

/-- Removes an alert with its history and its links. -/
def deleteAlert (a : Alert) : Script Engine Bool :=
  alerts (.delete a.id)

/-- All alerts of an owner. -/
def listAlerts (owner : Json) : Script Engine (List Alert) :=
  alerts (.listAlerts owner)

/-- The latest triggers of an alert first. -/
def history (a : Alert) (limit : Int) : Script Engine (List History) :=
  alerts (.listHistory a.id limit)

/-- Stores a new channel. -/
def createChannel (c : Channel) : Script Engine Channel := do
  .ofExcept c.validate
  alerts (.saveChannel { c with id := none })

/-- Stores the settings of a channel. -/
def updateChannel (c : Channel) : Script Engine Channel := do
  if c.id.isNone then .fail (.config "id" "channel has not been created")
  .ofExcept c.validate
  alerts (.saveChannel c)

/-- Removes a channel. -/
def deleteChannel (c : Channel) : Script Engine Bool :=
  alerts (.deleteChannel c.id)

/-- All channels of an owner. -/
def listChannels (owner : Json) : Script Engine (List Channel) :=
  alerts (.listChannels owner)

end LogAlert.Service
