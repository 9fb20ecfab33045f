import LogAlert.Engine.Evaluator

/-!
# The scheduler

The scheduler runs ticks one after the other and keeps count.  A tick that fails, or that could
not load the alerts, counts as a failure; callbacks are told of every tick, and their own
failures are passed over.

## Main definitions

* `Scheduler` : the counts.
* `Scheduling` : the interface to the evaluator and the callbacks.
* `Scheduler.runOnce` : one tick with its callbacks.
-/

namespace LogAlert

/-- How many ticks went through, and how many failures there were since the last success. -/
structure Scheduler where
  ticks : Nat
  failures : Nat
  deriving DecidableEq, Repr, Inhabited

/-- A request of the scheduler. -/
inductive SchedulingRequest where
  | tick
  /-- Tell a callback of a tick, with the report unless the tick failed, and with the counts
  after it. -/
  | call (callback : Nat) (counts : Scheduler) (report : Option TickReport)
  deriving Repr, Inhabited

/-- What a request is answered with. -/
@[reducible] def SchedulingRequest.Answer : SchedulingRequest → Type
  | tick => TickReport
  | call .. => Unit

/-- The requests of the scheduler. -/
abbrev Scheduling : Interface :=
  ⟨SchedulingRequest, SchedulingRequest.Answer⟩

namespace Scheduler

/-- The scheduler before its first tick. -/
def start : Scheduler :=
  ⟨0, 0⟩

/-- The counts after a tick. -/
def record (s : Scheduler) (result : Except Failure TickReport) : Scheduler :=
  match result with
  | .error _ => { s with failures := s.failures + 1 }
  | .ok report =>
    { ticks := s.ticks + 1, failures := if report.loadError.isSome then s.failures + 1 else 0 }

/-- Tells the callbacks, which are known by their numbers, of a tick. -/
def callEach (counts : Scheduler) (report : Option TickReport) :
    List Nat → Script Scheduling Unit
  | [] => pure ()
  | n :: ns => do
    let _ ← (Script.request (I := Scheduling) (.call n counts report)).attempt
    callEach counts report ns

/-- Runs a tick and tells the callbacks, of which there are so many. -/
def runOnce (s : Scheduler) (callbacks : Nat) :
    Script Scheduling (Scheduler × Option TickReport) := do
  let result ← (Script.request (I := Scheduling) .tick).attempt
  let report : Option TickReport := result.toOption
  let counts := s.record result
  callEach counts report (List.range callbacks)
  pure (counts, report)

end Scheduler

end LogAlert
