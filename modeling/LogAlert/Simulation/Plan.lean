import LogAlert.Failure
import LogAlert.Table

/-!
# Planned failures

A plan makes some of the coming calls fail.  Plans for the calls of a store or of the evaluator
are kept by the name of the call, one for each.

## Main definitions

* `Plan`, `Plan.strike` : a plan, and what it does to a call.
* `Target`, `CallPlans` : the plans by target and name of the call.
-/

namespace LogAlert.Simulation

/-- A failure that is planned for calls: the first `skip` of them go through, and the `times`
after those fail. -/
structure Plan where
  failure : Failure
  skip : Nat
  times : Nat
  deriving Repr, Inhabited

/-- The plan after a call, and whether the call fails. -/
def Plan.strike (p : Plan) : Plan × Bool :=
  match p.skip, p.times with
  | skip + 1, _ => ({ p with skip }, false)
  | 0, times + 1 => ({ p with times }, true)
  | 0, 0 => (p, false)

/-- What is called. -/
inductive Target where
  | alerts
  | logs
  | evaluator
  deriving DecidableEq, Repr, Inhabited

/-- The plans for calls. -/
abbrev CallPlans := Table (Target × String) Plan

/-- What becomes of a call: its plans after it, and its failure if one is planned. -/
def CallPlans.strike (plans : CallPlans) (call : Target × String) :
    Except Failure Unit × CallPlans :=
  match plans.get? call with
  | none => (.ok (), plans)
  | some plan =>
    let (next, fails) := plan.strike
    (if fails then .error plan.failure else .ok (), plans.put call next)

end LogAlert.Simulation
