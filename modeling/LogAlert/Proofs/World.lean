import LogAlert.Alert.Book
import LogAlert.Alert.Service
import LogAlert.Engine.Evaluator
import LogAlert.Log.Store
import LogAlert.Proofs.Script

/-!
# Runs of the whole system

The administration and the evaluation of alerts, over a book, a log store and a clock.  A run is
any sequence of events: logs come in, the clock is set to any time, users administer alerts and
channels, and ticks evaluate the alerts.  An event ends before the next one begins.  What
notifying the channels comes to is left open in every tick.

## Main definitions

* `World` : a book, a log store and a clock.
* `World.answer` : the answers of a world to the requests of the engine.
* `Event`, `World.step` : the events, and the world after one.
* `Step`, `Run` : the runs, with the steps that were taken.
* `Sample` : the events of a short run.
-/

namespace LogAlert

/-- What notifying the channels of an alert comes to: any answer or failure. -/
abbrev Notifier := Alert → AlertType → Json → Except Failure Json

/-- What the engine works on. -/
structure World where
  book : AlertBook
  logs : LogStore
  clock : Moment

namespace World

/-- The world without alerts and logs. -/
def start (clock : Moment) : World :=
  ⟨.empty, .empty, clock⟩

/-- The answer to a request of the engine, and the world after it. -/
def answer (notifier : Notifier) (r : EngineRequest) (w : World) :
    Except Failure r.Answer × World :=
  match r with
  | .alerts r => ((AlertBook.answer r w.book).1, { w with book := (AlertBook.answer r w.book).2 })
  | .logs r => (w.logs.answer r, w)
  | .now => (.ok w.clock, w)
  | .notify a type data => (notifier a type data, w)
  | .evaluating _ => (.ok (), w)

/-- A script of the engine in a world. -/
def run {α : Type} (w : World) (notifier : Notifier) (script : Script Engine α) :
    Except Failure α × World :=
  script.run (I := Engine) (answer notifier) w

/-- The notifier for scripts that notify nobody. -/
def silent : Notifier := fun _ _ _ => .ok .null

end World

/-- Something that happens in a world. -/
inductive Event where
  /-- A log entry comes in and is given the next id. -/
  | append (source message level : String) (timestamp : Moment) (metadata : Json.Fields)
  /-- A record comes in with an id. -/
  | add (record : Record)
  | setClock (time : Moment)
  | createAlert (alert : Alert) (channelIds : List Int)
  | updateAlert (alert : Alert) (channelIds : Option (List Int))
  | toggleAlert (alert : Alert)
  | deleteAlert (alert : Alert)
  | createChannel (channel : Channel)
  | updateChannel (channel : Channel)
  | deleteChannel (channel : Channel)
  | tick (previewChars : Int) (notifier : Notifier)

namespace World

/-- The world after an event. -/
def step (w : World) : Event → World
  | .append source message level timestamp metadata =>
    { w with logs := (w.logs.append source message level timestamp metadata).1 }
  | .add r => { w with logs := (w.logs.add r).toOption.getD w.logs }
  | .setClock time => { w with clock := time }
  | .createAlert a channelIds => (w.run silent (Service.createAlert a channelIds)).2
  | .updateAlert a channelIds => (w.run silent (Service.updateAlert a channelIds)).2
  | .toggleAlert a => (w.run silent (Service.toggleAlert a)).2
  | .deleteAlert a => (w.run silent (Service.deleteAlert a)).2
  | .createChannel c => (w.run silent (Service.createChannel c)).2
  | .updateChannel c => (w.run silent (Service.updateChannel c)).2
  | .deleteChannel c => (w.run silent (Service.deleteChannel c)).2
  | .tick previewChars notifier => (w.run notifier (Evaluator.tick previewChars)).2

end World

/-- Whether an event may happen: the clock knows its offset from UTC, and settings are edited of
alerts that are there. -/
def Event.Allowed (w : World) : Event → Prop
  | .setClock time => time.isAware
  | .updateAlert a _ => ∃ i, a.id = some i ∧ (w.book.alerts.get? i).isSome
  | _ => True

/-- An event in the world in which it happened. -/
structure Step where
  before : World
  event : Event

/-- The world after a step. -/
def Step.after (s : Step) : World :=
  s.before.step s.event

/-- The worlds that a run of events leads to, with the steps taken on the way. -/
inductive Run : List Step → World → Prop where
  | start (clock : Moment) (aware : clock.isAware) : Run [] (.start clock)
  | next {past : List Step} {w : World} (run : Run past w) (e : Event) (allowed : e.Allowed w) :
      Run (past ++ [⟨w, e⟩]) (w.step e)

namespace Sample

/-! ### A short run -/

/-- An hour of some day. -/
def noon : Moment := ⟨63890000000000000, some 0⟩

/-- The time some seconds later. -/
def later (seconds : Int) : Moment :=
  ⟨noon.wall + seconds * Span.second, some 0⟩

/-- An alert on the records with a word. -/
def alert : Alert where
  id := none
  settings :=
    { name := .str "errors"
      searchQuery := .str "error"
      type := .str "any_match"
      description := .str ""
      enabled := .bool true
      threshold := .null
      window := .null
      cooldown := .int 300
      ownerId := .null }
  channels := []
  cursor := .empty

/-- A record with the word comes in. -/
def failure : Event :=
  .append "app" "an error" "error" noon []

/-- A tick that notifies nobody. -/
def tick : Event :=
  .tick 200 World.silent

end Sample

/-! ### Requests -/

namespace World

variable (w : World) (notifier : Notifier)

theorem run_bind {α β : Type} (script : Script Engine α) (next : α → Script Engine β) :
    w.run notifier (script >>= next) =
      match w.run notifier script with
      | (.ok a, w) => w.run notifier (next a)
      | (.error e, w) => (.error e, w) := by
  unfold run
  rw [Script.run_bind]
  generalize script.run (I := Engine) (answer notifier) w = ended
  rcases ended with ⟨⟨⟩ | ⟨a⟩, w'⟩ <;> rfl

@[simp] theorem run_ofExcept {α : Type} (result : Except Failure α) :
    w.run notifier (.ofExcept result) = (result, w) := rfl

@[simp] theorem run_attempt {α : Type} (script : Script Engine α) :
    w.run notifier script.attempt =
      (.ok (w.run notifier script).1, (w.run notifier script).2) :=
  Script.run_attempt ..

@[simp] theorem run_alerts (r : AlertRequest) :
    w.run notifier (Engine.alerts r) =
      ((AlertBook.answer r w.book).1, { w with book := (AlertBook.answer r w.book).2 }) := rfl

@[simp] theorem run_logs (r : LogRequest) :
    w.run notifier (Engine.logs r) = (w.logs.answer r, w) := rfl

@[simp] theorem run_now : w.run notifier Engine.now = (.ok w.clock, w) := rfl

@[simp] theorem run_notify (a : Alert) (type : AlertType) (data : Json) :
    w.run notifier (Engine.notify a type data) = (notifier a type data, w) := rfl

@[simp] theorem run_evaluating (a : Alert) :
    w.run notifier (Script.request (I := Engine) (.evaluating a)) = (.ok (), w) := rfl

end World

end LogAlert
