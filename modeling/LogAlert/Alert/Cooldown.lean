import LogAlert.Alert.Basic
import LogAlert.Json.Order

/-!
# Cooldowns

After a trigger an alert rests for its cooldown.  Exactly when the cooldown is over it may
trigger again.

## Main definitions

* `Phase` : where an alert stands relative to its cooldown.
* `Phase.classify` : the phase at a time.
-/

namespace LogAlert

/-- Where an alert stands relative to its cooldown. -/
inductive Phase where
  | neverTriggered
  | inCooldown
  | eligible
  deriving DecidableEq, Repr, Inhabited

namespace Phase

/-- The name of a phase. -/
def name : Phase → String
  | .neverTriggered => "never_triggered"
  | .inCooldown => "in_cooldown"
  | .eligible => "eligible"

/-- Whether an alert in this phase may trigger. -/
def canTrigger (p : Phase) : Bool :=
  p != .inCooldown

/-- A length of time in seconds, rounded to double precision. -/
def seconds (amount : Span) : Binary64 :=
  .ofIntRatio amount 1000000

/-- The phase of an alert at a time, by the time of its last trigger and its cooldown in
seconds. -/
def classify (now : Moment) (last : Option Moment) (cooldown : Json) : Except Failure Phase :=
  match last with
  | none => .ok .neverTriggered
  | some last =>
    match now.elapsed? last.assumeUtc with
    | none => .error (.type "can't subtract offset-naive and offset-aware datetimes")
    | some amount => do
      let elapsed := ((seconds amount).position?).getD (.ofInt 0)
      if ← cooldown.isAbove "float" elapsed then .ok .inCooldown else .ok .eligible

end Phase

end LogAlert
