import LogAlert.Proofs.ReachableStores
import LogAlert.Proofs.World

/-!
# What an evaluation does

The evaluation of an alert ends in an outcome and has an effect on the book: none, a move of the
alert's cursor, or a recorded trigger with such a move.  Which of them it is depends on the
alert, the logs, the time and the notifier alone.

## Main definitions

* `Effect`, `AlertBook.apply` : what an evaluation does to the book.
* `Alert.Rests` : the alert is in its cooldown.
* `Evaluator.Fails` : what makes an evaluation fail.
* `Verdict` : the outcomes and effects that an evaluation can have, each with its conditions.

## Main results

* `Evaluator.run_evaluateGuarded` : an evaluation comes to a verdict, and has its effect.
* `Evaluator.run_tick` : a tick comes to a verdict on each enabled alert, and leaves all other
  alerts as they are.
-/

namespace LogAlert

/-- What the evaluation of an alert does to the book. -/
inductive Effect where
  | nothing
  | moves (update : Cursor)
  | triggers (type : AlertType) (data notifications : Json) (update : Cursor)

namespace Effect

/-- The move of the cursor. -/
def update : Effect → Cursor
  | nothing => .empty
  | moves u => u
  | triggers _ _ _ u => u

/-- The triggers that are recorded of the alert `i`, under the id `row`. -/
def newRows (row i : Int) (now : Moment) : Effect → List History
  | triggers type data notifications _ =>
    [{ id := some row, alertId := some i, type, data, notifications, triggeredAt := now }]
  | _ => []

end Effect

namespace AlertBook

/-- The book after the evaluation of an alert at a time. -/
def apply (b : AlertBook) (i : Int) (now : Moment) : Effect → AlertBook
  | .nothing => b
  | .moves u => (b.updateCursor (some i) u).1
  | .triggers type data notifications u =>
    ((b.createHistory (some i) (.str type.name) data notifications now).1.updateCursor (some i) u).1

variable {b : AlertBook} {i : Int}

theorem get?_apply (b : AlertBook) (i j : Int) (now : Moment) (e : Effect) :
    (b.apply i now e).alerts.get? j =
      if i == j then (b.alerts.get? i).map fun a => { a with cursor := a.cursor.advance e.update }
      else b.alerts.get? j := by
  cases e with
  | nothing =>
    have hid : (fun a : Alert => { a with cursor := a.cursor.advance .empty }) = id := by
      funext a
      rw [Cursor.advance_empty]
      rfl
    rw [apply, Effect.update, hid, Option.map_id]
    split
    · next hij =>
      rw [eq_of_beq hij]
      rfl
    · rfl
  | moves u => exact get?_updateCursor ..
  | triggers type data notifications u =>
    rw [apply, get?_updateCursor, alerts_createHistory]
    rfl

theorem rows_apply (h : (b.alerts.get? i).isSome) (j : Int) (now : Moment) (e : Effect) :
    (b.apply i now e).rows j =
      if i == j then b.rows i ++ e.newRows b.nextHistory i now else b.rows j := by
  have hnone : b.rows j = if i == j then b.rows i ++ [] else b.rows j := by
    split
    · next hij => rw [List.append_nil, eq_of_beq hij]
    · rfl
  cases e with
  | nothing => exact hnone
  | moves u =>
    rw [apply, rows_updateCursor]
    exact hnone
  | triggers type data notifications u =>
    rw [apply, rows_updateCursor, rows_createHistory _ _ _ _ h]
    rfl

theorem nextHistory_le_apply (b : AlertBook) (i : Int) (now : Moment) (e : Effect) :
    b.nextHistory ≤ (b.apply i now e).nextHistory := by
  have hmove (b : AlertBook) (u : Cursor) :
      (b.updateCursor (some i) u).1.nextHistory = b.nextHistory := by
    rw [updateCursor]
    split <;> rfl
  cases e with
  | nothing => exact Int.le_refl _
  | moves u => exact Int.le_of_eq (hmove b u).symm
  | triggers type data notifications u =>
    rw [apply, hmove, createHistory]
    split
    · exact Int.le_refl _
    · split
      · exact Int.le_refl _
      · exact Int.le_of_lt (Int.lt_succ _)

theorem Sound.apply (hb : b.Sound) (h : (b.alerts.get? i).isSome) (now : Moment) (e : Effect) :
    (b.apply i now e).Sound := by
  cases e with
  | nothing => exact hb
  | moves u => exact hb.updateCursor ..
  | triggers type data notifications u => exact (hb.createHistory _ _ _ _ h).updateCursor ..

end AlertBook

/-! ### Verdicts -/

/-- The alert is in its cooldown. -/
def Alert.Rests (a : Alert) (now : Moment) : Prop :=
  Phase.classify now a.cursor.lastTriggered a.settings.cooldown = .ok .inCooldown

theorem Alert.Rests.may_not {a : Alert} {now : Moment} (rests : a.Rests now) {phase : Phase}
    (classified : Phase.classify now a.cursor.lastTriggered a.settings.cooldown = .ok phase)
    (may : phase.canTrigger) : False := by
  obtain rfl := Except.ok.inj (classified.symm.trans rests)
  cases may

/-- In its cooldown, and only then, an alert may not trigger. -/
theorem Phase.eq_inCooldown {phase : Phase} (not : ¬phase.canTrigger = true) :
    phase = .inCooldown := by
  cases phase with
  | inCooldown => rfl
  | neverTriggered | eligible => exact absurd rfl not

/-- What makes the evaluation of an alert fail: something that it asks fails. -/
inductive Evaluator.Fails (notifier : Notifier) (logs : LogStore) (now : Moment) (a : Alert) :
    Prop where
  | phase {e : Failure}
      (h : Phase.classify now a.cursor.lastTriggered a.settings.cooldown = .error e)
  | type {e : Failure} (h : AlertType.ofJson a.settings.type = .error e)
  | query {e : Failure} (h : tokensOf a now = .error e)
  | first {e : Failure} {tokens : List Token} (query : tokensOf a now = .ok tokens)
      (h : logs.firstAfter a.cursor.lastSeen tokens = .error e)
  | last {e : Failure} {tokens : List Token} (query : tokensOf a now = .ok tokens)
      (h : logs.lastAfter a.cursor.lastSeen tokens = .error e)
  /-- An alert on many records lacks a threshold or a window. -/
  | unset (type : AlertType.ofJson a.settings.type = .ok .velocity) (awake : ¬a.Rests now)
      (h : a.settings.threshold.isNull || a.settings.window.isNull)
  | window {e : Failure} (type : AlertType.ofJson a.settings.type = .ok .velocity)
      (awake : ¬a.Rests now) (h : windowStart now a.settings.window = .error e)
  | count {e : Failure} {tokens : List Token} {cutoff : Moment}
      (type : AlertType.ofJson a.settings.type = .ok .velocity) (awake : ¬a.Rests now)
      (query : tokensOf a now = .ok tokens)
      (window : windowStart now a.settings.window = .ok cutoff)
      (h : logs.countSince cutoff tokens = .error e)
  | compare {e : Failure} {count : Nat}
      (type : AlertType.ofJson a.settings.type = .ok .velocity) (awake : ¬a.Rests now)
      (h : a.settings.threshold.isAbove "int" (.ofInt count) = .error e)
  | notifier {e : Failure} {type : AlertType} {data : Json} (h : notifier a type data = .error e)

open Evaluator in
/-- The outcomes and effects that the evaluation of an alert can have, by the logs, the time and
the notifier, each with its conditions. -/
inductive Verdict (previewChars : Int) (notifier : Notifier) (logs : LogStore) (now : Moment)
    (a : Alert) : Outcome → Effect → Prop where
  /-- Something failed before anything was written. -/
  | failed (fails : Fails notifier logs now a) :
      Verdict previewChars notifier logs now a .failed .nothing
  /-- An alert on many records rests. -/
  | rested (phase : Phase.classify now a.cursor.lastTriggered a.settings.cooldown = .ok .inCooldown)
      (type : AlertType.ofJson a.settings.type = .ok .velocity) :
      Verdict previewChars notifier logs now a .skipped .nothing
  /-- An alert on single records rests, and no record is to be passed over. -/
  | skipped (tokens : List Token)
      (phase : Phase.classify now a.cursor.lastTriggered a.settings.cooldown = .ok .inCooldown)
      (type : AlertType.ofJson a.settings.type = .ok .anyMatch)
      (query : tokensOf a now = .ok tokens)
      (none : tokens = [] ∨ logs.lastAfter a.cursor.lastSeen tokens = .ok none) :
      Verdict previewChars notifier logs now a .skipped .nothing
  /-- An alert on single records rests, and passes over the records up to one. -/
  | suppressed (tokens : List Token) (r : Record)
      (phase : Phase.classify now a.cursor.lastTriggered a.settings.cooldown = .ok .inCooldown)
      (type : AlertType.ofJson a.settings.type = .ok .anyMatch)
      (query : tokensOf a now = .ok tokens) (nonempty : tokens ≠ [])
      (found : logs.lastAfter a.cursor.lastSeen tokens = .ok (some r)) :
      Verdict previewChars notifier logs now a .suppressed
        (.moves { Cursor.empty with lastSeen := some r.id })
  /-- No new record answers the query. -/
  | checked (tokens : List Token) (phase : Phase)
      (classified : Phase.classify now a.cursor.lastTriggered a.settings.cooldown = .ok phase)
      (may : phase.canTrigger) (type : AlertType.ofJson a.settings.type = .ok .anyMatch)
      (query : tokensOf a now = .ok tokens)
      (none : tokens = [] ∨ logs.firstAfter a.cursor.lastSeen tokens = .ok none) :
      Verdict previewChars notifier logs now a .checked
        (.moves { Cursor.empty with lastChecked := some now })
  /-- A new record answers the query. -/
  | matched (tokens : List Token) (phase : Phase) (r : Record) (notifications : Json)
      (classified : Phase.classify now a.cursor.lastTriggered a.settings.cooldown = .ok phase)
      (may : phase.canTrigger) (type : AlertType.ofJson a.settings.type = .ok .anyMatch)
      (query : tokensOf a now = .ok tokens) (nonempty : tokens ≠ [])
      (found : logs.firstAfter a.cursor.lastSeen tokens = .ok (some r))
      (notified : notifier a .anyMatch (matchData r previewChars) = .ok notifications) :
      Verdict previewChars notifier logs now a .triggered
        (.triggers .anyMatch (matchData r previewChars) notifications
          ⟨some r.id, some now, some now⟩)
  /-- Too few records of the window answer the query. -/
  | counted (tokens : List Token) (phase : Phase) (cutoff : Moment) (count : Nat)
      (classified : Phase.classify now a.cursor.lastTriggered a.settings.cooldown = .ok phase)
      (may : phase.canTrigger) (type : AlertType.ofJson a.settings.type = .ok .velocity)
      (query : tokensOf a now = .ok tokens)
      (window : windowStart now a.settings.window = .ok cutoff)
      (counts : (if tokens.isEmpty then .ok 0 else logs.countSince cutoff tokens) = .ok count)
      (few : a.settings.threshold.isAbove "int" (.ofInt count) = .ok true) :
      Verdict previewChars notifier logs now a .checked
        (.moves { Cursor.empty with lastChecked := some now })
  /-- Enough records of the window answer the query. -/
  | exceeded (tokens : List Token) (phase : Phase) (cutoff : Moment) (count : Nat)
      (notifications : Json)
      (classified : Phase.classify now a.cursor.lastTriggered a.settings.cooldown = .ok phase)
      (may : phase.canTrigger) (type : AlertType.ofJson a.settings.type = .ok .velocity)
      (query : tokensOf a now = .ok tokens)
      (window : windowStart now a.settings.window = .ok cutoff)
      (counts : (if tokens.isEmpty then .ok 0 else logs.countSince cutoff tokens) = .ok count)
      (enough : a.settings.threshold.isAbove "int" (.ofInt count) = .ok false)
      (notified : notifier a .velocity
        (velocityData count a.settings.threshold a.settings.window) = .ok notifications) :
      Verdict previewChars notifier logs now a .triggered
        (.triggers .velocity (velocityData count a.settings.threshold a.settings.window)
          notifications ⟨none, some now, some now⟩)

namespace Evaluator

open Engine

variable {w : World} {notifier : Notifier} {a : Alert} {i : Int}

/-! ### Writes -/

theorem run_writeCursor (h : a.id = some i) (u : Cursor) :
    w.run notifier (writeCursor a u) =
      (.ok (), { w with book := w.book.apply i w.clock (.moves u) }) := by
  unfold writeCursor
  rw [World.run_bind, World.run_attempt, World.run_alerts, AlertBook.answer, h]
  rfl

theorem run_trigger (h : a.id = some i) (type : AlertType) (data : Json) (u : Cursor) :
    w.run notifier (trigger a type data u w.clock) =
      match notifier a type data with
      | .error e => (.error e, w)
      | .ok notifications =>
        (.ok (),
          { w with book := w.book.apply i w.clock (.triggers type data notifications u) }) := by
  unfold trigger
  rw [World.run_bind, World.run_notify]
  cases notifier a type data with
  | error e => rfl
  | ok notifications =>
    dsimp only
    rw [World.run_bind, World.run_attempt, World.run_alerts]
    dsimp only
    rw [run_writeCursor h, AlertBook.answer, h]
    rfl

/-! ### Evaluations -/

/-- A script in a world either fails on the evaluation of an alert and leaves the world as it is,
or ends in an outcome and an effect on the alert under an id that satisfy `P`. -/
def Ends (w : World) (notifier : Notifier) (i : Int) (a : Alert) (script : Script Engine Outcome)
    (P : Outcome → Effect → Prop) : Prop :=
  (Fails notifier w.logs w.clock a ∧ ∃ e, w.run notifier script = (.error e, w)) ∨
    ∃ o e, w.run notifier script = (.ok o, { w with book := w.book.apply i w.clock e }) ∧ P o e

private theorem ends_pure {P : Outcome → Effect → Prop} {o : Outcome} (h : P o .nothing) :
    Ends w notifier i a (pure o) P :=
  .inr ⟨o, .nothing, rfl, h⟩

private theorem ends_writeCursor {P : Outcome → Effect → Prop} {o : Outcome} {u : Cursor}
    (ha : a.id = some i) (h : P o (.moves u)) :
    Ends w notifier i a (do writeCursor a u; pure o) P := by
  refine .inr ⟨o, .moves u, ?_, h⟩
  rw [World.run_bind, run_writeCursor ha]
  rfl

private theorem ends_trigger {P : Outcome → Effect → Prop} {type : AlertType} {data : Json}
    {u : Cursor} (ha : a.id = some i)
    (h : ∀ notifications, notifier a type data = .ok notifications →
      P .triggered (.triggers type data notifications u)) :
    Ends w notifier i a (do trigger a type data u w.clock; pure .triggered) P := by
  unfold Ends
  rw [World.run_bind, run_trigger ha]
  cases hn : notifier a type data with
  | error e => exact .inl ⟨.notifier hn, e, rfl⟩
  | ok notifications => exact .inr ⟨_, _, rfl, h notifications hn⟩

private theorem ends_bind {α : Type} {P : Outcome → Effect → Prop} {script : Script Engine α}
    {next : α → Script Engine Outcome} {result : Except Failure α}
    (h : w.run notifier script = (result, w))
    (hfails : ∀ e, result = .error e → Fails notifier w.logs w.clock a)
    (hnext : ∀ x, result = .ok x → Ends w notifier i a (next x) P) :
    Ends w notifier i a (script >>= next) P := by
  unfold Ends at *
  rw [World.run_bind, h]
  cases result with
  | error e => exact .inl ⟨hfails e rfl, e, rfl⟩
  | ok x => exact hnext x rfl

/-- Without tokens nothing is looked for. -/
private theorem ends_search {r : LogRequest} {P : Outcome → Effect → Prop} {tokens : List Token}
    {nothing : r.Answer} {next : r.Answer → Script Engine Outcome}
    (hfails : ∀ e, w.logs.answer r = .error e → Fails notifier w.logs w.clock a)
    (hnext : ∀ x, (if tokens.isEmpty then .ok nothing else w.logs.answer r) = .ok x →
      Ends w notifier i a (next x) P) :
    Ends w notifier i a
      (if tokens.isEmpty then do let x ← pure nothing; next x
        else do let x ← logs r; next x) P := by
  split
  · next empty =>
    exact hnext nothing (if_pos empty)
  · next nonempty =>
    refine ends_bind (World.run_logs ..) hfails fun x hx => hnext x ?_
    rw [if_neg nonempty]
    exact hx

theorem ends_evaluateMatch (previewChars : Int) {phase : Phase} (ha : a.id = some i)
    (classified : Phase.classify w.clock a.cursor.lastTriggered a.settings.cooldown = .ok phase)
    (type : AlertType.ofJson a.settings.type = .ok .anyMatch) :
    Ends w notifier i a (evaluateMatch previewChars a w.clock phase)
      (Verdict previewChars notifier w.logs w.clock a) := by
  unfold evaluateMatch
  refine ends_bind (World.run_ofExcept ..) (fun e h => .query h) fun tokens query => ?_
  by_cases may : phase.canTrigger = true
  · rw [if_pos may]
    refine ends_search (fun e h => .first query h) fun found hfound => ?_
    cases found with
    | none =>
      refine ends_writeCursor ha (.checked tokens phase classified may type query ?_)
      split at hfound
      · next empty => exact .inl (List.isEmpty_iff.mp empty)
      · exact .inr hfound
    | some r =>
      refine ends_trigger ha fun notifications notified => ?_
      split at hfound
      · cases hfound
      · next nonempty =>
        exact .matched tokens phase r notifications classified may type query
          (fun h => nonempty (List.isEmpty_iff.mpr h)) hfound notified
  · rw [if_neg may]
    obtain rfl := Phase.eq_inCooldown may
    by_cases empty : tokens.isEmpty = true
    · rw [if_pos empty]
      exact ends_pure (.skipped tokens classified type query (.inl (List.isEmpty_iff.mp empty)))
    · rw [if_neg empty]
      refine ends_bind (World.run_logs ..) (fun e h => .last query h) fun found hfound => ?_
      cases found with
      | none => exact ends_pure (.skipped tokens classified type query (.inr hfound))
      | some r =>
        exact ends_writeCursor ha (.suppressed tokens r classified type query
          (fun h => empty (List.isEmpty_iff.mpr h)) hfound)

theorem ends_evaluateVelocity (previewChars : Int) {phase : Phase} (ha : a.id = some i)
    (classified : Phase.classify w.clock a.cursor.lastTriggered a.settings.cooldown = .ok phase)
    (may : phase.canTrigger) (type : AlertType.ofJson a.settings.type = .ok .velocity) :
    Ends w notifier i a (evaluateVelocity a w.clock)
      (Verdict previewChars notifier w.logs w.clock a) := by
  have awake : ¬a.Rests w.clock := fun rests => rests.may_not classified may
  unfold evaluateVelocity
  dsimp only
  split
  · next unset => exact .inl ⟨.unset type awake unset, _, rfl⟩
  · refine ends_bind (World.run_ofExcept ..) (fun e h => .query h) fun tokens query => ?_
    refine ends_bind (World.run_ofExcept ..) (fun e h => .window type awake h)
      fun cutoff window => ?_
    refine ends_search (fun e h => .count type awake query window h) fun count counts => ?_
    refine ends_bind (World.run_ofExcept ..) (fun e h => .compare type awake h)
      fun few hfew => ?_
    cases few with
    | true =>
      exact ends_writeCursor ha
        (.counted tokens phase cutoff count classified may type query window counts hfew)
    | false =>
      exact ends_trigger ha fun notifications notified =>
        .exceeded tokens phase cutoff count notifications classified may type query window counts
          hfew notified

theorem ends_evaluate (previewChars : Int) (ha : a.id = some i) :
    Ends w notifier i a (evaluate previewChars a)
      (Verdict previewChars notifier w.logs w.clock a) := by
  unfold evaluate
  refine ends_bind (World.run_evaluating ..) nofun fun _ _ => ?_
  refine ends_bind (World.run_now ..) nofun fun now hnow => ?_
  obtain rfl := Except.ok.inj hnow
  refine ends_bind (World.run_ofExcept ..) (fun e h => .phase h) fun phase classified => ?_
  refine ends_bind (World.run_ofExcept ..) (fun e h => .type h) fun type htype => ?_
  cases type with
  | anyMatch => exact ends_evaluateMatch previewChars ha classified htype
  | velocity =>
    dsimp only
    split
    · next may => exact ends_evaluateVelocity previewChars ha classified may htype
    · next rests =>
      obtain rfl := Phase.eq_inCooldown rests
      exact ends_pure (.rested classified htype)

/-- **An evaluation comes to a verdict.**  It never fails, and does to the world what the verdict
says and nothing else. -/
theorem run_evaluateGuarded (notifier : Notifier) (previewChars : Int) (ha : a.id = some i) :
    ∃ o e, w.run notifier (evaluateGuarded previewChars a) =
        (.ok o, { w with book := w.book.apply i w.clock e }) ∧
      Verdict previewChars notifier w.logs w.clock a o e := by
  unfold evaluateGuarded
  rw [World.run_bind, World.run_attempt]
  rcases ends_evaluate previewChars ha with ⟨fails, e, h⟩ | ⟨o, e, h, verdict⟩
  · rw [h]
    exact ⟨.failed, .nothing, rfl, .failed fails⟩
  · rw [h]
    exact ⟨o, e, rfl, verdict⟩

/-! ### Ticks -/

/-- In the book `b` the alert `i` stands as in the book of `w`. -/
def Kept (w : World) (b : AlertBook) (i : Int) : Prop :=
  b.alerts.get? i = w.book.alerts.get? i ∧ b.rows i = w.book.rows i

/-- In the book `b` the alert `i`, which was read as `a` in `w`, stands as its evaluation with the
outcome `o` left it. -/
def Judged (previewChars : Int) (notifier : Notifier) (w : World) (b : AlertBook) (i : Int)
    (a : Alert) (o : Outcome) : Prop :=
  ∃ e row, Verdict previewChars notifier w.logs w.clock a o e ∧ w.book.nextHistory ≤ row ∧
    b.alerts.get? i =
      (w.book.alerts.get? i).map (fun a => { a with cursor := a.cursor.advance e.update }) ∧
    b.rows i = w.book.rows i ++ e.newRows row i w.clock

theorem Kept.trans {b₀ b : AlertBook} {i : Int} (first : Kept w b₀ i)
    (second : Kept { w with book := b₀ } b i) : Kept w b i :=
  ⟨second.1.trans first.1, second.2.trans first.2⟩

/-- An alert that stood as before when it was judged was judged as if from the beginning. -/
theorem Judged.of_kept {b₀ b : AlertBook} {i : Int} {a : Alert} {o : Outcome}
    (first : Kept w b₀ i) (le : w.book.nextHistory ≤ b₀.nextHistory)
    (judged : Judged previewChars notifier { w with book := b₀ } b i a o) :
    Judged previewChars notifier w b i a o := by
  obtain ⟨e, row, verdict, hrow, halert, hrows⟩ := judged
  refine ⟨e, row, verdict, Int.le_trans le hrow, ?_, ?_⟩
  · rw [halert, first.1]
  · rw [hrows, first.2]

/-- Alerts with distinct ids that are evaluated in turn do not concern each other: each is
judged as if it were the only one, and no other alert is touched. -/
theorem run_evaluations (notifier : Notifier) (previewChars : Int) (as : List Alert)
    (stored : ∀ a ∈ as, ∃ i, a.id = some i ∧ (w.book.alerts.get? i).isSome)
    (nodup : (as.map Alert.id).Nodup) :
    ∃ os b, w.run notifier (Script.mapList (evaluateGuarded previewChars) as) =
        (.ok os, { w with book := b }) ∧
      (w.book.Sound → b.Sound) ∧ os.length = as.length ∧
      (∀ a o, (a, o) ∈ as.zip os → ∀ i, a.id = some i → Judged previewChars notifier w b i a o) ∧
      ∀ i, some i ∉ as.map Alert.id → Kept w b i := by
  induction as generalizing w with
  | nil =>
    refine ⟨[], w.book, rfl, id, rfl, fun a o h => ?_, fun i _ => ⟨rfl, rfl⟩⟩
    cases h
  | cons a as ih =>
    obtain ⟨i, ha, hi⟩ := stored a List.mem_cons_self
    obtain ⟨fresh, rest⟩ := List.nodup_cons.mp nodup
    rw [ha] at fresh
    obtain ⟨o, e, hrun, verdict⟩ := run_evaluateGuarded (w := w) notifier previewChars ha
    -- the first evaluation leaves the other alerts alone
    have other (j : Int) (hj : i ≠ j) : Kept w (w.book.apply i w.clock e) j := by
      constructor
      · rw [AlertBook.get?_apply, if_neg (by simpa using hj)]
      · rw [AlertBook.rows_apply hi, if_neg (by simpa using hj)]
    obtain ⟨os, b, hruns, sound, length, judged, kept⟩ :=
      ih (w := { w with book := w.book.apply i w.clock e })
        (fun a' ha' => by
          obtain ⟨j, hj, hs⟩ := stored a' (List.mem_cons_of_mem a ha')
          refine ⟨j, hj, ?_⟩
          have hij : i ≠ j := fun h => fresh (List.mem_map.mpr ⟨a', ha', h ▸ hj⟩)
          rwa [(other j hij).1])
        rest
    refine ⟨o :: os, b, ?_, fun hb => sound (hb.apply hi ..), congrArg (· + 1) length, ?_, ?_⟩
    · unfold World.run at *
      rw [Script.run_mapList_cons, hrun]
      dsimp only
      rw [hruns]
    · intro a' o' hmem j hj
      rcases List.mem_cons.mp hmem with h | hmem
      · obtain ⟨rfl, rfl⟩ := Prod.mk.inj h
        obtain rfl := Option.some.inj (ha.symm.trans hj)
        obtain ⟨halert, hrows⟩ := kept i fresh
        refine ⟨e, w.book.nextHistory, verdict, Int.le_refl _, ?_, ?_⟩
        · rw [halert, AlertBook.get?_apply, if_pos (beq_self_eq_true i)]
        · rw [hrows, AlertBook.rows_apply hi, if_pos (beq_self_eq_true i)]
      · have hij : i ≠ j := fun h =>
          fresh (List.mem_map.mpr ⟨a', (List.of_mem_zip hmem).1, h ▸ hj⟩)
        exact (judged a' o' hmem j hj).of_kept (other j hij) (AlertBook.nextHistory_le_apply ..)
    · intro j hj
      rw [List.map_cons, List.mem_cons, not_or, ha] at hj
      exact (other j fun h => hj.1 (congrArg some h.symm)).trans (kept j hj.2)

/-- How a tick with the given report treats the alert `i`: one that is enabled is judged, and
any other is kept. -/
inductive Ticked (previewChars : Int) (notifier : Notifier) (w : World) (report : TickReport)
    (b : AlertBook) (i : Int) : Prop where
  | judged (a : Alert) (o : Outcome) (stored : w.book.alerts.get? i = some a)
      (enabled : a.settings.enabled.isTruthy) (reported : report.outcomes.get? (some i) = some o)
      (judged : Judged previewChars notifier w b i (w.book.load a) o)
  | kept (off : ∀ a, w.book.alerts.get? i = some a → a.settings.enabled.isTruthy = false)
      (reported : report.outcomes.get? (some i) = none) (kept : Kept w b i)

theorem mem_listEnabled {b : AlertBook} (hb : b.Keyed) {a : Alert} :
    a ∈ b.listEnabled ↔ ∃ i a₀, b.alerts.get? i = some a₀ ∧ a₀.settings.enabled.isTruthy ∧
      a = b.load a₀ := by
  rw [AlertBook.listEnabled, List.mem_map]
  constructor
  · rintro ⟨a₀, hmem, rfl⟩
    obtain ⟨hvalue, enabled⟩ := List.mem_filter.mp hmem
    obtain ⟨⟨i, a₁⟩, hentry, rfl⟩ := List.mem_map.mp hvalue
    exact ⟨i, a₁, (Table.mem_iff_get? hb.nodup).mp hentry, enabled, rfl⟩
  · rintro ⟨i, a₀, hget, enabled, rfl⟩
    exact ⟨a₀, List.mem_filter.mpr ⟨List.mem_map.mpr ⟨(i, a₀), Table.mem_of_get? hget, rfl⟩,
      enabled⟩, rfl⟩

theorem nodup_listEnabled {b : AlertBook} (hb : b.Keyed) :
    (b.listEnabled.map Alert.id).Nodup := by
  have hkeys : b.alerts.values.map Alert.id = b.alerts.keys.map some := by
    rw [Table.values, Table.keys, List.map_map, List.map_map]
    refine List.map_congr_left fun e hmem => ?_
    exact hb.id_eq ((Table.mem_iff_get? hb.nodup).mp hmem)
  have hids : b.listEnabled.map Alert.id =
      (b.alerts.values.filter fun a => a.settings.enabled.isTruthy).map Alert.id := by
    rw [AlertBook.listEnabled, List.map_map]
    rfl
  rw [hids]
  refine List.Nodup.sublist (List.filter_sublist.map Alert.id) ?_
  rw [hkeys]
  exact List.Pairwise.map _ (fun i j h hij => h (Option.some.inj hij)) hb.nodup

/-- A tick reports the outcomes of the evaluations of the enabled alerts by their ids. -/
theorem run_tick_eq (hb : w.book.Keyed) {previewChars : Int} {os : List Outcome} {w' : World}
    (hrun : w.run notifier (Script.mapList (evaluateGuarded previewChars) w.book.listEnabled) =
      (.ok os, w')) (length : os.length = w.book.listEnabled.length) :
    w.run notifier (tick previewChars) =
      (.ok ⟨w.clock, (w.book.listEnabled.map Alert.id).zip os, none⟩, w') := by
  unfold tick
  rw [World.run_bind, World.run_now]
  dsimp only
  rw [World.run_bind, World.run_attempt, World.run_alerts, AlertBook.answer]
  dsimp only
  rw [World.run_bind, hrun, ← Table.foldl_put_zip Alert.id (nodup_listEnabled hb) length.symm]
  rfl

/-- **A tick evaluates every enabled alert once.**  It does not fail, it changes nothing but the
book, and it treats each alert by itself. -/
theorem run_tick (notifier : Notifier) (previewChars : Int) (hb : w.book.Keyed) :
    ∃ report b, w.run notifier (tick previewChars) = (.ok report, { w with book := b }) ∧
      report.startedAt = w.clock ∧ report.loadError = none ∧ (w.book.Sound → b.Sound) ∧
      ∀ i, Ticked previewChars notifier w report b i := by
  obtain ⟨os, b, hrun, sound, length, judged, kept⟩ :=
    run_evaluations notifier previewChars w.book.listEnabled
      (fun a ha => by
        obtain ⟨i, a₀, hget, -, rfl⟩ := (mem_listEnabled hb).mp ha
        exact ⟨i, (hb.id_eq hget :), by rw [hget]; rfl⟩) (nodup_listEnabled hb)
  -- the report has an entry for each evaluated alert
  have keys : Table.keys ((w.book.listEnabled.map Alert.id).zip os) =
      w.book.listEnabled.map Alert.id :=
    Table.keys_zip (by rw [List.length_map, length])
  refine ⟨_, b, run_tick_eq hb hrun length, rfl, rfl, sound, fun i => ?_⟩
  cases h : Table.get? ((w.book.listEnabled.map Alert.id).zip os) (some i) with
  | none =>
    have hnot : some i ∉ w.book.listEnabled.map Alert.id := keys ▸ Table.get?_eq_none.mp h
    refine .kept (fun a ha => ?_) h (kept i hnot)
    refine Bool.eq_false_iff.mpr fun enabled => hnot (List.mem_map.mpr ?_)
    exact ⟨w.book.load a, (mem_listEnabled hb).mpr ⟨i, a, ha, enabled, rfl⟩, (hb.id_eq ha :)⟩
  | some o =>
    have hentry := Table.mem_of_get? h
    rw [List.zip_map_left, List.mem_map] at hentry
    obtain ⟨⟨a, o'⟩, hmem, hentry⟩ := hentry
    obtain ⟨hid, rfl⟩ := Prod.mk.inj hentry
    obtain ⟨i', a₀, hget, enabled, rfl⟩ := (mem_listEnabled hb).mp (List.of_mem_zip hmem).1
    obtain rfl : i' = i := Option.some.inj ((hb.id_eq hget).symm.trans hid)
    exact .judged a₀ o' hget enabled h (judged _ _ hmem i' hid)

end Evaluator

end LogAlert
