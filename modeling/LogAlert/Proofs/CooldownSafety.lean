import LogAlert.Proofs.Change
import LogAlert.Proofs.CooldownBoundary
import Mathlib.Data.List.Chain

/-!
# Alerts rest between triggers

In every run the triggers of an alert are at least its cooldown apart, whatever the clock, the
users and the channels do meanwhile.  The invariant ties the cursor to the history: the last
trigger that the cursor knows is the last one recorded.  It is kept by every event, since the
administration carries the time of the last trigger over and a tick moves it only together with
a new trigger.

## Main definitions

* `Step.Records` : the steps that record a trigger.
* `Step.Rested` : a trigger came after a rest.
* `RestInvariant` : the cursor and the triggers of an alert fit together.

## Main results

* `Run.rest` : every run keeps the invariant.
* `Run.triggers_apart` : the triggers of an alert are its cooldown apart.
-/

namespace LogAlert

/-- The step records the trigger of the alert `i`. -/
def Step.Records (s : Step) (i : Int) (r : History) : Prop :=
  r ∉ s.before.book.rows i ∧ r ∈ s.after.book.rows i

/-- A step of the run recorded the trigger `s` of the alert `i`, after the alert had rested since
`r` for the cooldown that it had at this step. -/
def Step.Rested (past : List Step) (i : Int) (r s : History) : Prop :=
  ∃ step ∈ past, step.Records i s ∧
    ∃ a c, step.before.book.alerts.get? i = some a ∧ a.settings.cooldown = .int c ∧
      minCooldown ≤ c ∧ r.triggeredAt.instant + c * Span.second ≤ s.triggeredAt.instant

/-- After a run, the cursor of an alert and its triggers fit together. -/
structure RestInvariant (past : List Step) (i : Int) (a : Alert) (rows : List History) : Prop where
  cooldown : isCooldown a.settings.cooldown
  rested : rows.IsChain (Step.Rested past i)
  last : a.cursor.lastTriggered = rows.getLast?.map (·.triggeredAt)

/-- Valid settings have a type and a cooldown, and those of the type that counts records what it
needs. -/
theorem AlertSettings.exists_of_validate {s : AlertSettings} (h : s.validate = .ok ()) :
    ∃ type, AlertType.ofJson s.type = .ok type ∧ isCooldown s.cooldown ∧
      (type = .velocity → checkVelocity s = .ok ()) := by
  unfold AlertSettings.validate at h
  cases hname : checkName s.name with
  | error e =>
    rw [hname] at h
    cases h
  | ok _ =>
    rw [hname] at h
    change (if _ then _ else _ : Except Failure Unit) = _ at h
    rw [AlertType.ofJson]
    split at h
    · cases h
    split at h
    · cases h
    next type htype =>
    split at h
    · cases h
    next cooldown =>
    rw [htype]
    refine ⟨type, rfl, by simpa using cooldown, ?_⟩
    rintro rfl
    exact h

theorem isCooldown_of_validate {a : Alert} (h : a.validate = .ok ()) :
    isCooldown a.settings.cooldown := by
  obtain ⟨-, -, cooldown, -⟩ := AlertSettings.exists_of_validate h
  exact cooldown

theorem exists_of_isCooldown {v : Json} (h : isCooldown v) :
    ∃ c, v = .int c ∧ minCooldown ≤ c ∧ c ≤ maxCooldown := by
  cases v <;> simp_all [isCooldown]

namespace Verdict

variable {previewChars : Int} {notifier : Notifier} {logs : LogStore} {now : Moment} {a : Alert}
  {o : Outcome} {e : Effect}

/-- The time of the last trigger moves only when a trigger is recorded, to the time of the
trigger, and only of an alert that may trigger. -/
theorem rest (h : Verdict previewChars notifier logs now a o e) :
    (e.update.lastTriggered = none ∧ ∀ row i, e.newRows row i now = []) ∨
      ∃ type data notifications phase, e.update.lastTriggered = some now ∧
        (∀ row i, e.newRows row i now =
          [⟨some row, some i, type, data, notifications, now⟩]) ∧
        Phase.classify now a.cursor.lastTriggered a.settings.cooldown = .ok phase ∧
        phase.canTrigger := by
  cases h with
  | failed => exact .inl ⟨rfl, fun _ _ => rfl⟩
  | rested => exact .inl ⟨rfl, fun _ _ => rfl⟩
  | skipped => exact .inl ⟨rfl, fun _ _ => rfl⟩
  | suppressed => exact .inl ⟨rfl, fun _ _ => rfl⟩
  | checked => exact .inl ⟨rfl, fun _ _ => rfl⟩
  | counted => exact .inl ⟨rfl, fun _ _ => rfl⟩
  | matched tokens phase r notifications classified may =>
    exact .inr ⟨_, _, _, phase, rfl, fun _ _ => rfl, classified, may⟩
  | exceeded tokens phase cutoff count notifications classified may =>
    exact .inr ⟨_, _, _, phase, rfl, fun _ _ => rfl, classified, may⟩

end Verdict

namespace RestInvariant

variable {past : List Step} {i : Int} {a : Alert} {rows : List History}

theorem more (h : RestInvariant past i a rows) (step : Step) :
    RestInvariant (past ++ [step]) i a rows := by
  refine ⟨h.cooldown, h.rested.imp fun r s ⟨step', hmem, hs⟩ => ?_, h.last⟩
  exact ⟨step', List.mem_append_left _ hmem, hs⟩

/-- A verdict on an alert keeps the invariant. -/
theorem judged {w : World} {event : Event} {b : AlertBook} {previewChars : Int}
    {notifier : Notifier} {o : Outcome} (hw : w.book.Sound)
    (after : (w.step event).book = b) (stored : w.book.alerts.get? i = some a)
    (h : RestInvariant past i a (w.book.rows i))
    (judged : Evaluator.Judged previewChars notifier w b i (w.book.load a) o) :
    ∃ a', b.alerts.get? i = some a' ∧ RestInvariant (past ++ [⟨w, event⟩]) i a' (b.rows i) := by
  obtain ⟨e, row, verdict, le, halert, hrows⟩ := judged
  rw [stored] at halert
  refine ⟨_, halert, ?_⟩
  rcases verdict.rest with ⟨still, none⟩ | ⟨type, data, notifications, phase, moved, new,
    classified, may⟩
  · rw [hrows, none, List.append_nil]
    refine ⟨h.cooldown, (h.more _).rested, ?_⟩
    rw [Cursor.lastTriggered_advance, still]
    exact h.last
  · rw [new] at hrows
    obtain ⟨c, hc, low, high⟩ := exists_of_isCooldown h.cooldown
    refine ⟨h.cooldown, ?_, ?_⟩
    · rw [hrows, List.isChain_append]
      refine ⟨(h.more _).rested, List.IsChain.singleton _, fun r hr s hs => ?_⟩
      obtain rfl := Option.some.inj hs
      refine ⟨⟨w, event⟩, List.mem_append_right _ List.mem_cons_self, ⟨fun old => ?_, ?_⟩, a, c,
        stored, hc, low, ?_⟩
      · obtain ⟨n, hn, lt⟩ := hw.row_lt old
        obtain rfl := Option.some.inj hn
        omega
      · rw [Step.after, after, hrows]
        exact List.mem_append_right _ List.mem_cons_self
      · have hlast : a.cursor.lastTriggered = some r.triggeredAt := by
          rw [h.last, hr]
          rfl
        change Phase.classify w.clock a.cursor.lastTriggered a.settings.cooldown = _ at classified
        rw [hlast, hc] at classified
        exact Phase.rested_of_canTrigger low high classified may
    · rw [Cursor.lastTriggered_advance, moved, hrows, List.getLast?_append]
      rfl

/-- The administration keeps the invariant. -/
theorem administered {newest : Option Int} {b b' : AlertBook} (hb : b.Sound)
    (fate : Fate newest (b.alerts.get? i) (b'.alerts.get? i) (b.rows i) (b'.rows i))
    (h : ∀ a, b.alerts.get? i = some a → RestInvariant past i a (b.rows i)) {a : Alert}
    (stored : b'.alerts.get? i = some a) : RestInvariant past i a (b'.rows i) := by
  cases fate with
  | kept alert rows =>
    rw [rows]
    exact h a (alert ▸ stored)
  | created a' fresh alert valid cursor rows =>
    obtain rfl := Option.some.inj (alert.symm.trans stored)
    rw [rows, hb.rows_nil fresh]
    refine ⟨isCooldown_of_validate valid, List.IsChain.nil, ?_⟩
    rw [cursor]
    rfl
  | edited old a' before alert valid cursor rows =>
    obtain rfl := Option.some.inj (alert.symm.trans stored)
    obtain ⟨-, rested, last⟩ := h old before
    rw [rows]
    exact ⟨isCooldown_of_validate valid, rested, cursor ▸ last⟩
  | disabled old a' before alert settings cursor rows =>
    obtain rfl := Option.some.inj (alert.symm.trans stored)
    obtain ⟨cooldown, rested, last⟩ := h old before
    rw [rows]
    exact ⟨settings ▸ cooldown, rested, cursor ▸ last⟩
  | enabled old a' before alert settings cursor rows =>
    obtain rfl := Option.some.inj (alert.symm.trans stored)
    obtain ⟨cooldown, rested, last⟩ := h old before
    rw [rows]
    refine ⟨settings ▸ cooldown, rested, ?_⟩
    rw [cursor]
    exact last
  | removed alert rows =>
    rw [alert] at stored
    cases stored

end RestInvariant

namespace Run

variable {past : List Step} {w : World}

/-- **Every run keeps the invariant** of every alert. -/
theorem rest (run : Run past w) {i : Int} {a : Alert} (stored : w.book.alerts.get? i = some a) :
    RestInvariant past i a (w.book.rows i) := by
  induction run generalizing a with
  | start clock aware => cases stored
  | @next past w run e allowed ih =>
    have hw := run.sound
    generalize hafter : w.step e = w' at stored
    have change := hafter ▸ World.change hw allowed
    cases change with
    | logged => exact (ih stored).more _
    | clocked => exact (ih stored).more _
    | administered b administered =>
      exact (RestInvariant.administered hw (administered.fate i) (fun a => ih) stored).more _
    | ticked previewChars notifier report b run sound ticked =>
      cases ticked i with
      | judged a₀ o before enabled reported judged =>
        obtain ⟨a', ha', h⟩ :=
          RestInvariant.judged hw (congrArg World.book hafter) before (ih before) judged
        obtain rfl := Option.some.inj (ha'.symm.trans stored)
        exact h
      | kept off reported kept =>
        obtain ⟨alert, rows⟩ := kept
        rw [rows]
        exact (ih (alert ▸ stored)).more _

/-- **The triggers of an alert are its cooldown apart.**  In every reachable world, for every
alert that is there: between two triggers, one recorded right after the other, the alert rested
for the cooldown that it had when the later one was recorded; the triggers are in the order of
time; and the cursor has the time of the last trigger, or none if there is no trigger. -/
theorem triggers_apart (run : Run past w) {i : Int} {a : Alert}
    (stored : w.book.alerts.get? i = some a) :
    (w.book.rows i).IsChain (Step.Rested past i) ∧
      (w.book.rows i).Pairwise (fun r s => r.triggeredAt.instant < s.triggeredAt.instant) ∧
      a.cursor.lastTriggered = (w.book.rows i).getLast?.map (·.triggeredAt) := by
  obtain ⟨-, rested, last⟩ := run.rest stored
  refine ⟨rested, ?_, last⟩
  have htrans : Trans (fun r s : History => r.triggeredAt.instant < s.triggeredAt.instant)
      (fun r s : History => r.triggeredAt.instant < s.triggeredAt.instant)
      (fun r s : History => r.triggeredAt.instant < s.triggeredAt.instant) := ⟨Int.lt_trans⟩
  refine List.isChain_iff_pairwise.mp (rested.imp fun r s ⟨_, _, _, _, c, _, _, low, apart⟩ => ?_)
  have hrest : 0 < c * Span.second :=
    Int.mul_pos (Int.lt_of_lt_of_le (by decide) low) (by decide)
  omega

open Sample in
/-- An alert triggers, and triggers again after its cooldown of five minutes. -/
theorem triggers_apart_of_two :
    ∃ past w a, Run past w ∧ w.book.alerts.get? 1 = some a ∧ (w.book.rows 1).length = 2 ∧
      (w.book.rows 1).IsChain (Step.Rested past 1) ∧
      (w.book.rows 1).Pairwise (fun r s => r.triggeredAt.instant < s.triggeredAt.instant) ∧
      a.cursor.lastTriggered = (w.book.rows 1).getLast?.map (·.triggeredAt) := by
  have created := (Run.start noon rfl).next (.createAlert alert []) trivial
  have triggered := (created.next failure trivial).next tick trivial
  have rested := (triggered.next (.setClock (later 300)) rfl).next failure trivial
  have run := rested.next tick trivial
  refine ⟨_, _, _, run, Option.eq_some_of_isSome ?_, ?_, run.triggers_apart
    (Option.eq_some_of_isSome ?_)⟩
  all_goals decide +kernel

end Run

end LogAlert
