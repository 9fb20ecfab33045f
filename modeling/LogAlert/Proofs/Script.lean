import LogAlert.Script

/-!
# Running scripts

How a script runs in surroundings that answer its requests and keep a state: part by part, in
the order in which it is written.

## Main results

* `Script.bind_bind` : composition is associative.
* `Script.run_bind`, `Script.run_attempt` : the run of a composed script
  from the runs of its parts.
* `Script.run_mapList_cons` : the run of a script for each of several items.
-/

namespace LogAlert.Script

variable {I : Interface} {α β γ σ : Type}

/-- Three scripts one after the other. -/
theorem bind_bind (script : Script I α) (f : α → Script I β) (g : β → Script I γ) :
    script >>= f >>= g = script >>= fun a => f a >>= g := by
  induction script with
  | done result => cases result <;> rfl
  | ask r next ih => exact congrArg (ask r) (funext fun answer => ih answer)

variable (answer : (r : I.Request) → σ → Except Failure (I.Answer r) × σ)

/-- One script after the other: the second starts where the first ended, unless that failed. -/
theorem run_bind (script : Script I α) (next : α → Script I β) (s : σ) :
    (script >>= next).run answer s =
      match script.run answer s with
      | (.ok a, s) => (next a).run answer s
      | (.error e, s) => (.error e, s) := by
  induction script generalizing s with
  | done result => cases result <;> rfl
  | ask r more ih => exact ih (answer r s).1 (answer r s).2

theorem run_bind_ok {script : Script I α} {next : α → Script I β} {s s' : σ} {a : α}
    (h : script.run answer s = (.ok a, s')) :
    (script >>= next).run answer s = (next a).run answer s' := by
  rw [run_bind, h]

theorem run_bind_error {script : Script I α} {next : α → Script I β} {s s' : σ} {e : Failure}
    (h : script.run answer s = (.error e, s')) :
    (script >>= next).run answer s = (.error e, s') := by
  rw [run_bind, h]

/-- A script whose failure is an answer ends as it does without that, and never fails. -/
theorem run_attempt (script : Script I α) (s : σ) :
    script.attempt.run answer s = (.ok (script.run answer s).1, (script.run answer s).2) := by
  induction script generalizing s with
  | done result => rfl
  | ask r more ih => exact ih (answer r s).1 (answer r s).2

/-- Of several items the first runs first, and a failure ends the run. -/
theorem run_mapList_cons (f : α → Script I β) (a : α) (as : List α) (s : σ) :
    (mapList f (a :: as)).run answer s =
      match (f a).run answer s with
      | (.error e, s) => (.error e, s)
      | (.ok b, s) =>
        match (mapList f as).run answer s with
        | (.error e, s) => (.error e, s)
        | (.ok bs, s) => (.ok (b :: bs), s) := by
  rw [mapList, run_bind]
  rcases (f a).run answer s with ⟨⟨⟩ | ⟨b⟩, s₁⟩
  · rfl
  · dsimp only
    rw [run_bind]
    rcases (mapList f as).run answer s₁ with ⟨⟨⟩ | ⟨bs⟩, s₂⟩ <;> rfl

end LogAlert.Script
