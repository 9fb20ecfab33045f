import LogAlert.Alert.Request
import LogAlert.Log.Request
import LogAlert.Script

/-!
# Requests of the engine

What the administration and the evaluation of alerts ask of their surroundings: the alert
store, the log store, the clock, and the notification of users.

What comes of a notification is a JSON value, the list of the outcomes by channel, and is recorded
as it is.  Answers that are no such values, and objects that cannot be copied, are left out.

## Main definitions

* `EngineRequest`, `EngineRequest.Answer` : the requests and their answers.
* `Engine` : the interface.
-/

namespace LogAlert

/-- A request of the engine. -/
inductive EngineRequest where
  | alerts (request : AlertRequest)
  | logs (request : LogRequest)
  | now
  /-- Notify the channels of an alert; the answer lists what came of it. -/
  | notify (alert : Alert) (type : AlertType) (data : Json)
  /-- Tells that the evaluation of an alert begins. -/
  | evaluating (alert : Alert)
  deriving Repr, Inhabited

/-- What a request is answered with. -/
@[reducible] def EngineRequest.Answer : EngineRequest → Type
  | alerts r => r.Answer
  | logs r => r.Answer
  | now => Moment
  | notify .. => Json
  | evaluating _ => Unit

/-- The requests of the engine. -/
abbrev Engine : Interface :=
  ⟨EngineRequest, EngineRequest.Answer⟩

namespace Engine

/-- A request to the alert store. -/
def alerts (r : AlertRequest) : Script Engine r.Answer :=
  .request (I := Engine) (.alerts r)

/-- A request to the log store. -/
def logs (r : LogRequest) : Script Engine r.Answer :=
  .request (I := Engine) (.logs r)

/-- The time. -/
def now : Script Engine Moment :=
  .request (I := Engine) .now

/-- Notification of the channels of an alert. -/
def notify (a : Alert) (type : AlertType) (data : Json) : Script Engine Json :=
  .request (I := Engine) (.notify a type data)

end Engine

end LogAlert
