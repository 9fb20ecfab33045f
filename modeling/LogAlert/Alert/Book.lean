import LogAlert.Alert.Request
import LogAlert.Slice
import LogAlert.Table

/-!
# The alert book

An alert store that is a value: the alerts, the channels, the links between them, and the
history of triggers.

## Main definitions

* `AlertBook` : the books.
* `AlertBook.save`, `AlertBook.updateCursor`, … : the requests of an alert store, one by one.
* `AlertBook.answer` : the answer to any request, and the book after it.
-/

namespace LogAlert

/-- Alerts and channels by id, the ids of the channels that each alert is linked to, the
triggers of each alert in the order in which they were recorded, and the next ids.  Alerts are
kept without their channels, which are loaded through the links. -/
structure AlertBook where
  alerts : Table Int Alert
  channels : Table Int Channel
  links : Table Int (List Int)
  history : Table Int (List History)
  nextAlert : Int
  nextChannel : Int
  nextHistory : Int
  deriving Repr, Inhabited

namespace AlertBook

/-- The book without entries. -/
def empty : AlertBook :=
  ⟨[], [], [], [], 1, 1, 1⟩

/-- An alert with the channels that it is linked to. -/
def load (b : AlertBook) (a : Alert) : Alert :=
  { a with
    channels := match a.id with
      | some id => ((b.links.get? id).getD []).filterMap b.channels.get?
      | none => [] }

/-- The alert with an id. -/
def get (b : AlertBook) (id : Option Int) : Option Alert :=
  (id.bind b.alerts.get?).map b.load

/-- All alerts of an owner. -/
def listAlerts (b : AlertBook) (owner : Json) : List Alert :=
  (b.alerts.values.filter fun a => ownerFits owner a.settings.ownerId).map b.load

/-- All enabled alerts. -/
def listEnabled (b : AlertBook) : List Alert :=
  (b.alerts.values.filter fun a => a.settings.enabled.isTruthy).map b.load

/-- The cursor to be stored with an alert: that of the stored alert, if there is one and the
baseline is not reset. -/
def cursorFor (b : AlertBook) (id : Int) (a : Alert) (resetBaseline : Bool) : Cursor :=
  match b.alerts.get? id with
  | some current => if resetBaseline then a.cursor else current.cursor
  | none => a.cursor

/-- Stores an alert under an id. -/
def store (b : AlertBook) (id : Int) (a : Alert) (cursor : Cursor) : AlertBook × Alert :=
  let stored := { a with id := some id, channels := [], cursor }
  let b :=
    { b with
      alerts := b.alerts.put id stored
      links := if b.links.has id then b.links else b.links.put id [] }
  (b, b.load stored)

/-- Stores the settings of an alert, under the next id if it has none. -/
def save (b : AlertBook) (a : Alert) (resetBaseline : Bool) : AlertBook × Alert :=
  match a.id with
  | none => { b with nextAlert := b.nextAlert + 1 }.store b.nextAlert a a.cursor
  | some id => b.store id a (b.cursorFor id a resetBaseline)

/-- Removes an alert with its links and its history, and tells whether it was there. -/
def delete (b : AlertBook) (id : Option Int) : AlertBook × Bool :=
  match id with
  | none => (b, false)
  | some id =>
    ({ b with
        alerts := b.alerts.erase id
        links := b.links.erase id
        history := b.history.erase id },
      b.alerts.has id)

/-- Links an alert to those of the given channels that exist. -/
def setChannels (b : AlertBook) (id : Option Int) (channelIds : List Int) :
    AlertBook × Except Failure Unit :=
  match id.filter b.alerts.has with
  | none => (b, .error (noSuchAlert id))
  | some id => ({ b with links := b.links.put id (channelIds.eraseDups.filter b.channels.has) }, .ok ())

/-- Moves the cursor of an alert. -/
def updateCursor (b : AlertBook) (id : Option Int) (update : Cursor) :
    AlertBook × Except Failure Alert :=
  match id.bind fun id => (b.alerts.get? id).map (id, ·) with
  | none => (b, .error (noSuchAlert id))
  | some (id, current) =>
    let moved := { current with cursor := current.cursor.advance update }
    let b := { b with alerts := b.alerts.put id moved }
    (b, .ok (b.load moved))

/-- Records a trigger of an alert. -/
def createHistory (b : AlertBook) (id : Option Int) (type : Json) (data notifications : Json)
    (time : Moment) : AlertBook × Except Failure History :=
  match id.filter b.alerts.has with
  | none => (b, .error (noSuchAlert id))
  | some id =>
    match AlertType.ofJson type with
    | .error e => (b, .error e)
    | .ok type =>
      let row : History :=
        { id := some b.nextHistory, alertId := some id, type, data, notifications,
          triggeredAt := time }
      ({ b with
          history := b.history.put id ((b.history.get? id).getD [] ++ [row])
          nextHistory := b.nextHistory + 1 },
        .ok row)

/-- Whether a trigger is not earlier than another one, ids deciding at the same time. -/
def notEarlier (a b : History) : Bool :=
  b.triggeredAt.instant < a.triggeredAt.instant ||
    (a.triggeredAt.instant == b.triggeredAt.instant && b.id.getD 0 ≤ a.id.getD 0)

/-- The triggers of an alert, latest first, up to a position.  Times that do not compare
cannot be put in order. -/
def listHistory (b : AlertBook) (id : Option Int) (limit : Int) : Except Failure (List History) :=
  let rows := (id.bind b.history.get?).getD []
  let comparable := rows.all fun a => rows.all fun b => a.triggeredAt.comparable b.triggeredAt
  if comparable then .ok (Slice.upTo limit (rows.mergeSort notEarlier))
  else .error (.type "can't compare offset-naive and offset-aware datetimes")

/-- Stores a channel, under the next id if it has none. -/
def saveChannel (b : AlertBook) (c : Channel) : AlertBook × Channel :=
  match c.id with
  | none =>
    let stored := { c with id := some b.nextChannel }
    ({ b with
        channels := b.channels.put b.nextChannel stored
        nextChannel := b.nextChannel + 1 },
      stored)
  | some id => ({ b with channels := b.channels.put id c }, c)

/-- All channels of an owner. -/
def listChannels (b : AlertBook) (owner : Json) : List Channel :=
  b.channels.values.filter fun c => ownerFits owner c.ownerId

/-- Removes a channel and the links to it, and tells whether it was there. -/
def deleteChannel (b : AlertBook) (id : Option Int) : AlertBook × Bool :=
  match id with
  | none => (b, false)
  | some id =>
    ({ b with
        channels := b.channels.erase id
        links := b.links.map fun (alert, ids) => (alert, ids.erase id) },
      b.channels.has id)

/-- The answer to a request, and the book after it. -/
def answer (r : AlertRequest) (b : AlertBook) : Except Failure r.Answer × AlertBook :=
  match r with
  | .listEnabled => (.ok b.listEnabled, b)
  | .listAlerts owner => (.ok (b.listAlerts owner), b)
  | .get id => (.ok (b.get id), b)
  | .save a resetBaseline =>
    let (b, stored) := b.save a resetBaseline
    (.ok (some stored), b)
  | .delete id =>
    let (b, existed) := b.delete id
    (.ok existed, b)
  | .setChannels id channelIds => (b.setChannels id channelIds).swap
  | .updateCursor a update => (b.updateCursor a.id update).swap
  | .createHistory a type data notifications time =>
    (b.createHistory a.id type data notifications time).swap
  | .listHistory id limit => (b.listHistory id limit, b)
  | .saveChannel c =>
    let (b, stored) := b.saveChannel c
    (.ok stored, b)
  | .getChannel id => (.ok (id.bind b.channels.get?), b)
  | .listChannels owner => (.ok (b.listChannels owner), b)
  | .deleteChannel id =>
    let (b, existed) := b.deleteChannel id
    (.ok existed, b)

end AlertBook

end LogAlert
