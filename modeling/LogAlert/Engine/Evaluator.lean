import LogAlert.Alert.Cooldown
import LogAlert.Calendar.Amount
import LogAlert.Engine.Request
import LogAlert.Query.Reading
import LogAlert.Slice

/-!
# Evaluation of alerts

One tick evaluates every enabled alert once.  An alert that is not in its cooldown triggers if
a new record answers its query, or if enough records of its window do.  In its cooldown an alert
on single records moves its cursor past those that answer its query, so that they never trigger
it later.

On a trigger the channels are notified, the trigger is recorded, and the cursor is moved; the
last of these happens even if the second fails.  The failure of one alert does not concern the
others.

## Main definitions

* `Outcome` : what came of an evaluation.
* `Evaluator.evaluate` : the evaluation of one alert.
* `Evaluator.tick` : the evaluation of all enabled alerts.
-/

namespace LogAlert

/-- What came of the evaluation of an alert. -/
inductive Outcome where
  | triggered
  /-- The condition is not met. -/
  | checked
  /-- In its cooldown, the alert passed over a record. -/
  | suppressed
  /-- In its cooldown, nothing was written. -/
  | skipped
  | failed
  deriving DecidableEq, Repr, Inhabited

/-- The name of an outcome. -/
def Outcome.name : Outcome → String
  | .triggered => "triggered"
  | .checked => "checked"
  | .suppressed => "suppressed"
  | .skipped => "skipped"
  | .failed => "failed"

/-- What happened to each alert during a tick, in the order of evaluation, or why the alerts
could not be loaded. -/
structure TickReport where
  startedAt : Moment
  outcomes : Table (Option Int) Outcome
  loadError : Option String
  deriving Repr, Inhabited

namespace TickReport

/-- How many alerts had an outcome. -/
def count (r : TickReport) (o : Outcome) : Nat :=
  (r.outcomes.values.filter (· == o)).length

end TickReport

namespace Evaluator

open Engine

/-- What is recorded of a record that triggers an alert; of its message only so many
characters. -/
def matchData (r : Record) (previewChars : Int) : Json :=
  .obj
    [("log_id", .int r.id),
      ("log_message", .str (String.ofList (Slice.upTo previewChars r.message.toList))),
      ("log_level", .str r.level), ("log_source", .str r.source),
      ("log_timestamp", .str r.timestamp.isoText)]

/-- What is recorded of a number of records that triggers an alert. -/
def velocityData (count : Int) (threshold window : Json) : Json :=
  .obj [("count", .int count), ("threshold", threshold), ("window_seconds", window)]

/-- The tokens of an alert's query. -/
def tokensOf (a : Alert) (now : Moment) : Except Failure (List Token) :=
  match a.settings.searchQuery with
  | .str s => Query.parse s.toList now
  | v => if v.isTruthy then .error (.lacks v "strip") else .ok []

/-- Moves the cursor of an alert; a failure is passed over. -/
def writeCursor (a : Alert) (update : Cursor) : Script Engine Unit := do
  let _ ← (alerts (.updateCursor a update)).attempt
  pure ()

/-- Notifies the channels, records the trigger, and moves the cursor. -/
def trigger (a : Alert) (type : AlertType) (data : Json) (update : Cursor) (now : Moment) :
    Script Engine Unit := do
  let notifications ← notify a type data
  let _ ← (alerts (.createHistory a (.str type.name) data notifications now)).attempt
  writeCursor a update

/-- Evaluates an alert on single records. -/
def evaluateMatch (previewChars : Int) (a : Alert) (now : Moment) (phase : Phase) :
    Script Engine Outcome := do
  let tokens ← .ofExcept (tokensOf a now)
  if phase.canTrigger then
    let found ← if tokens.isEmpty then pure none
      else logs (.firstAfter a.cursor.lastSeen tokens)
    match found with
    | none =>
      writeCursor a { Cursor.empty with lastChecked := some now }
      pure .checked
    | some r =>
      trigger a .anyMatch (matchData r previewChars) ⟨some r.id, some now, some now⟩ now
      pure .triggered
  else if tokens.isEmpty then pure .skipped
  else
    match ← logs (.lastAfter a.cursor.lastSeen tokens) with
    | none => pure .skipped
    | some r =>
      writeCursor a { Cursor.empty with lastSeen := some r.id }
      pure .suppressed

/-- The time from which on an alert counts records. -/
def windowStart (now : Moment) (window : Json) : Except Failure Moment := do
  Instant.before now (← Amount.seconds window)

/-- Evaluates an alert on many records. -/
def evaluateVelocity (a : Alert) (now : Moment) : Script Engine Outcome := do
  let threshold := a.settings.threshold
  let window := a.settings.window
  if threshold.isNull || window.isNull then
    .fail (.value ("velocity alert " ++ idText a.id ++ " has no threshold/window"))
  else
    let tokens ← .ofExcept (tokensOf a now)
    let cutoff ← .ofExcept (windowStart now window)
    let count ← if tokens.isEmpty then pure 0 else logs (.countSince cutoff tokens)
    if ← .ofExcept (threshold.isAbove "int" (.ofInt count)) then
      writeCursor a { Cursor.empty with lastChecked := some now }
      pure .checked
    else
      trigger a .velocity (velocityData count threshold window) ⟨none, some now, some now⟩ now
      pure .triggered

/-- Evaluates an alert. -/
def evaluate (previewChars : Int) (a : Alert) : Script Engine Outcome := do
  Script.request (I := Engine) (.evaluating a)
  let now ← now
  let phase ← .ofExcept (Phase.classify now a.cursor.lastTriggered a.settings.cooldown)
  match ← .ofExcept (AlertType.ofJson a.settings.type) with
  | .anyMatch => evaluateMatch previewChars a now phase
  | .velocity => if phase.canTrigger then evaluateVelocity a now else pure .skipped

/-- Evaluates an alert; a failure is an outcome. -/
def evaluateGuarded (previewChars : Int) (a : Alert) : Script Engine Outcome := do
  match ← (evaluate previewChars a).attempt with
  | .ok outcome => pure outcome
  | .error _ => pure .failed

/-- Evaluates all enabled alerts. -/
def tick (previewChars : Int) : Script Engine TickReport := do
  let startedAt ← now
  match ← (alerts .listEnabled).attempt with
  | .error e => pure { startedAt, outcomes := [], loadError := some e.text }
  | .ok loaded =>
    let outcomes ← Script.mapList (evaluateGuarded previewChars) loaded
    let table := (loaded.zip outcomes).foldl
      (fun t (a, o) => Table.put a.id o t) []
    pure { startedAt, outcomes := table, loadError := none }

end Evaluator

end LogAlert
