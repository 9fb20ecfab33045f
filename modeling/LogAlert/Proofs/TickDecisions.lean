import LogAlert.Proofs.CooldownBoundary
import LogAlert.Proofs.Evaluation
import LogAlert.Proofs.Searches

/-!
# What a tick decides

If nothing that is asked fails, a tick decides on an enabled alert by the records of the log store
alone.  An alert on single records triggers on the earliest record that is new to it and answers
its query; in its cooldown it passes over these records up to the latest.  An alert on many records
triggers if there are enough of them in its window.

## Main definitions

* `Alert.Windowed` : the alert counts the records of a window.
* `Evaluator.MatchDecided`, `Evaluator.MatchRested`, `Evaluator.VelocityDecided` : the decisions on
  an alert.

## Main results

* `Evaluator.windowStart_int` : where a window begins.
* `Evaluator.tick_decides` : a tick comes to these decisions, and records them.
-/

namespace LogAlert

open LogAlert.Span (day second)

/-- An answer is no failure. -/
theorem ne_error_of_ok {α : Type} {result : Except Failure α} {e : Failure}
    (h : ∃ x, result = .ok x) : result ≠ .error e := by
  rintro rfl
  obtain ⟨x, ⟨⟩⟩ := h

/-! ### Numbers and times -/

theorem Json.isAbove_int (c : Int) (kind : String) (n : Int) :
    (Json.int c).isAbove kind (.ofInt n) = .ok (decide (n < c)) :=
  congrArg Except.ok (Binary64.before_ofInt n c)

namespace Moment

/-- The moment that many microseconds earlier by the same clock, in the calendar or not. -/
def back (m : Moment) (amount : Span) : Moment :=
  { m with wall := m.wall - amount }

@[simp] theorem instant_back (m : Moment) (amount : Span) :
    (m.back amount).instant = m.instant - amount := by
  change m.wall - amount - m.offset.getD 0 = m.wall - m.offset.getD 0 - amount
  omega

end Moment

namespace Amount

/-- A whole number of microseconds is not rounded. -/
theorem rounded_whole (n : Int) : (Sum.mk n 0).rounded = n := by
  have hone : (0 : Int) < Position.one := Int.natCast_pos.mpr Binary64.one_pos
  rw [Sum.rounded, one]
  dsimp only
  rw [Int.add_zero, Int.natAbs_mul, Int.natAbs_natCast,
    Binary64.roundRatio_mul_self _ Binary64.one_pos, Binary64.signed]
  by_cases neg : n < 0
  · rw [decide_eq_true (Int.mul_neg_of_neg_of_pos neg hone), if_pos rfl,
      Int.ofNat_natAbs_of_nonpos (Int.le_of_lt neg), Int.neg_neg]
  · have hle : ¬n * (Position.one : Int) < 0 :=
      Int.not_lt.mpr (Int.mul_nonneg (Int.not_lt.mp neg) (Int.le_of_lt hone))
    rw [decide_eq_false hle, if_neg Bool.false_ne_true, Int.natAbs_of_nonneg (Int.not_lt.mp neg)]

/-- A whole number of seconds whose sum is a length of time. -/
theorem seconds_int {n : Int} (low : -maxDays ≤ (n * second).fdiv day)
    (high : (n * second).fdiv day ≤ maxDays) : seconds (.int n) = .ok (n * second) := by
  have hkeys : (Table.keys [("seconds", Json.int n)]).find?
      (fun key => !units.any (·.1 == key)) = none := by
    change List.find? _ ["seconds"] = none
    decide
  have hsum : addAll [("seconds", Json.int n)] units ⟨0, 0⟩ = .ok ⟨n * second, 0⟩ := by
    have hread (name : String) : Json.field? [("seconds", Json.int n)] name =
        if "seconds" == name then some (.int n) else none := by
      rw [Json.field?, Table.get?_cons, Table.get?_nil]
    simp [units, addAll, hread, Sum.add, bind, Except.bind]
  rw [seconds, total, hkeys]
  dsimp only
  rw [hsum]
  change (if _ then _ else _ : Except Failure Span) = _
  rw [rounded_whole]
  refine if_neg ?_
  rw [Bool.or_eq_true, decide_eq_true_eq, decide_eq_true_eq]
  omega

end Amount

namespace Evaluator

/-- A window of a whole number of seconds that begins in the calendar. -/
theorem windowStart_int {now : Moment} (hnow : now.Current) {n : Int}
    (begins : Moment.inRange (now.wall - n * second)) :
    windowStart now (.int n) = .ok (now.back (n * second)) := by
  have hshift : now.shift? (-(n * second)) = some (now.back (n * second)) :=
    if_pos begins
  have hread : Amount.seconds (.int n) = .ok (n * second) := by
    have hnow := hnow.inRange
    rw [Moment.inRange, Bool.and_eq_true, decide_eq_true_eq, decide_eq_true_eq] at hnow begins
    have hspan : Moment.span = 315537897600000000 := by decide
    have hdays : (n * second).fdiv day = n * second / 86400000000 :=
      Int.fdiv_eq_ediv_of_nonneg _ (by decide)
    have hmax : Amount.maxDays = 999999999 := rfl
    rw [hspan] at hnow begins
    refine Amount.seconds_int ?_ ?_
    all_goals
      rw [hdays, hmax]
      omega
  rw [windowStart, hread]
  change Instant.before now (n * second) = _
  rw [Instant.before, hshift]

end Evaluator

/-- Under an integral cooldown an alert always has a phase. -/
theorem Phase.classify_ok {now : Moment} (aware : now.isAware) (last : Option Moment) (c : Int) :
    ∃ phase, Phase.classify now last (.int c) = .ok phase := by
  cases last with
  | none => exact ⟨.neverTriggered, rfl⟩
  | some last =>
    have helapsed := Phase.elapsed?_assumeUtc aware last
    obtain ⟨b, hb⟩ : ∃ b, (Json.int c).isAbove "float"
        (((seconds (now.instant - last.instant)).position?).getD (.ofInt 0)) = .ok b :=
      ⟨_, rfl⟩
    rw [classify]
    dsimp only
    rw [helapsed]
    dsimp only
    rw [hb]
    cases b with
    | true => exact ⟨.inCooldown, rfl⟩
    | false => exact ⟨.eligible, rfl⟩

/-- The alert has a threshold and a window, and at a time the window begins in the calendar. -/
structure Alert.Windowed (a : Alert) (now : Moment) (threshold window : Int) : Prop where
  threshold_eq : a.settings.threshold = .int threshold
  window_eq : a.settings.window = .int window
  begins : Moment.inRange (now.wall - window * second)

namespace Evaluator

/-- **An evaluation does not fail** if nothing that it asks does. -/
theorem not_fails {notifier : Notifier} {logs : LogStore} {now : Moment} {a : Alert}
    (hnow : now.Current) {c : Int} (cooldown : a.settings.cooldown = .int c) {type : AlertType}
    (htype : AlertType.ofJson a.settings.type = .ok type)
    (windowed : type = .velocity → ¬a.Rests now → ∃ threshold window, a.Windowed now threshold window)
    {tokens : List Token} (hquery : tokensOf a now = .ok tokens)
    (answerable : logs.Answerable tokens) (timed : type = .velocity → logs.Timed)
    (notifies : ∀ type data, ∃ notifications, notifier a type data = .ok notifications) :
    ¬Fails notifier logs now a := by
  have counting (velocity : AlertType.ofJson a.settings.type = .ok .velocity) : type = .velocity :=
    Except.ok.inj (htype.symm.trans velocity)
  have counts (velocity : AlertType.ofJson a.settings.type = .ok .velocity) (awake : ¬a.Rests now) :
      ∃ threshold window, a.Windowed now threshold window :=
    windowed (counting velocity) awake
  intro fails
  cases fails with
  | phase h =>
    rw [cooldown] at h
    exact ne_error_of_ok (Phase.classify_ok hnow.isAware a.cursor.lastTriggered c) h
  | type h => exact ne_error_of_ok ⟨type, htype⟩ h
  | query h => exact ne_error_of_ok ⟨tokens, hquery⟩ h
  | first query h =>
    obtain rfl := Except.ok.inj (hquery.symm.trans query)
    exact ne_error_of_ok (answerable.firstAfter_ok _) h
  | last query h =>
    obtain rfl := Except.ok.inj (hquery.symm.trans query)
    exact ne_error_of_ok (answerable.lastAfter_ok _) h
  | unset velocity awake h =>
    obtain ⟨threshold, window, windowed⟩ := counts velocity awake
    rw [windowed.threshold_eq, windowed.window_eq] at h
    cases h
  | window velocity awake h =>
    obtain ⟨threshold, window, windowed⟩ := counts velocity awake
    rw [windowed.window_eq] at h
    exact ne_error_of_ok ⟨_, windowStart_int hnow windowed.begins⟩ h
  | count velocity awake query begins h =>
    obtain rfl := Except.ok.inj (hquery.symm.trans query)
    obtain ⟨threshold, window, windowed⟩ := counts velocity awake
    rw [windowed.window_eq, windowStart_int hnow windowed.begins] at begins
    obtain rfl := Except.ok.inj begins
    have aware : (now.back (window * second)).isAware := hnow.isAware
    exact ne_error_of_ok ⟨_, answerable.countSince_eq (timed (counting velocity)) aware⟩ h
  | compare velocity awake h =>
    obtain ⟨threshold, window, windowed⟩ := counts velocity awake
    rw [windowed.threshold_eq] at h
    exact ne_error_of_ok ⟨_, Json.isAbove_int ..⟩ h
  | notifier h => exact ne_error_of_ok (notifies _ _) h

/-! ### Decisions -/

section Decisions

variable (previewChars : Int) (notifier : Notifier) (logs : LogStore) (now : Moment) (i : Int)
  (a : Alert) (tokens : List Token) (o : Outcome) (new : List History) (c : Cursor)

/-- The outcome, the new triggers and the new cursor of an alert on single records that is not in
its cooldown. -/
structure MatchDecided : Prop where
  triggered_iff : o = .triggered ↔ tokens ≠ [] ∧ ∃ r, logs.Fresh a.cursor.lastSeen tokens r
  /-- The one new trigger has the data of the earliest record, and the cursor its id. -/
  triggered : o = .triggered → ∃ r notifications row, logs.Earliest a.cursor.lastSeen tokens r ∧
    notifier a .anyMatch (matchData r previewChars) = .ok notifications ∧
    new = [⟨some row, some i, .anyMatch, matchData r previewChars, notifications, now⟩] ∧
    c = ⟨some r.id, some now, some now⟩
  checked : o ≠ .triggered → o = .checked ∧ new = [] ∧ c = { a.cursor with lastChecked := some now }

/-- The outcome, the new triggers and the new cursor of an alert on single records in its
cooldown. -/
structure MatchRested : Prop where
  new_eq : new = []
  suppressed : tokens ≠ [] → (∃ r, logs.Fresh a.cursor.lastSeen tokens r) → o = .suppressed ∧
    ∃ r, logs.Latest a.cursor.lastSeen tokens r ∧ c = { a.cursor with lastSeen := some r.id }
  skipped : (tokens = [] ∨ ¬∃ r, logs.Fresh a.cursor.lastSeen tokens r) →
    o = .skipped ∧ c = a.cursor

/-- How many records of the window answer the query; none if it is empty. -/
def windowCount (window : Int) : Nat :=
  if tokens = [] then 0
  else logs.records.countP fun r =>
    now.instant - window * second ≤ r.timestamp.instant && r.answers tokens

/-- The outcome, the new triggers and the new cursor of an alert on many records that is not in
its cooldown. -/
structure VelocityDecided (threshold window : Int) : Prop where
  triggered_iff : o = .triggered ↔ threshold ≤ windowCount logs now tokens window
  /-- The one new trigger has the count, the threshold and the window. -/
  triggered : o = .triggered → ∃ notifications row,
    notifier a .velocity (velocityData (windowCount logs now tokens window) (.int threshold)
      (.int window)) = .ok notifications ∧
    new = [⟨some row, some i, .velocity, velocityData (windowCount logs now tokens window)
      (.int threshold) (.int window), notifications, now⟩] ∧
    c = ⟨a.cursor.lastSeen, some now, some now⟩
  checked : o ≠ .triggered → o = .checked ∧ new = [] ∧ c = { a.cursor with lastChecked := some now }

end Decisions

end Evaluator

/-- What is counted are the records of the window. -/
theorem Alert.Windowed.count_eq {a : Alert} {now : Moment} {threshold window : Int}
    (windowed : a.Windowed now threshold window) (hnow : now.Current) {logs : LogStore}
    (timed : logs.Timed) {tokens : List Token} (answerable : logs.Answerable tokens)
    {cutoff : Moment} (begins : Evaluator.windowStart now a.settings.window = .ok cutoff)
    {count : Nat}
    (counts : (if tokens.isEmpty then .ok 0 else logs.countSince cutoff tokens) = .ok count) :
    Evaluator.windowCount logs now tokens window = count := by
  rw [windowed.window_eq, Evaluator.windowStart_int hnow windowed.begins] at begins
  obtain rfl := Except.ok.inj begins
  rw [Evaluator.windowCount]
  split at counts
  · next empty => rw [if_pos (List.isEmpty_iff.mp empty), Except.ok.inj counts]
  · next nonempty =>
    have aware : (now.back (window * second)).isAware := hnow.isAware
    rw [answerable.countSince_eq timed aware, Moment.instant_back] at counts
    rw [if_neg fun empty => nonempty (List.isEmpty_iff.mpr empty), Except.ok.inj counts]

namespace Verdict

open Evaluator

variable {previewChars : Int} {notifier : Notifier} {logs : LogStore} {now : Moment} {a : Alert}
  {o : Outcome} {e : Effect} {tokens : List Token}

theorem matchDecided (verdict : Verdict previewChars notifier logs now a o e) (hlogs : logs.Sound)
    (works : ¬Fails notifier logs now a)
    (htype : AlertType.ofJson a.settings.type = .ok .anyMatch) (awake : ¬a.Rests now)
    (hquery : tokensOf a now = .ok tokens) (row i : Int) :
    MatchDecided previewChars notifier logs now i a tokens o (e.newRows row i now)
      (a.cursor.advance e.update) := by
  cases verdict with
  | failed fails => exact absurd fails works
  | rested phase => exact absurd phase awake
  | skipped tokens phase => exact absurd phase awake
  | suppressed tokens r phase => exact absurd phase awake
  | counted tokens phase cutoff count classified may type => cases htype.symm.trans type
  | exceeded tokens phase cutoff count notifications classified may type =>
    cases htype.symm.trans type
  | checked tokens' phase classified may type query none =>
    obtain rfl := Except.ok.inj (hquery.symm.trans query)
    have nothing : ¬(tokens ≠ [] ∧ ∃ r, logs.Fresh a.cursor.lastSeen tokens r) := by
      rintro ⟨nonempty, r, fresh⟩
      exact hlogs.not_fresh_of_firstAfter (none.resolve_left nonempty) r fresh
    exact ⟨iff_of_false nofun nothing, nofun, fun _ => ⟨rfl, rfl, rfl⟩⟩
  | matched tokens' phase r notifications classified may type query nonempty found notified =>
    obtain rfl := Except.ok.inj (hquery.symm.trans query)
    have earliest := hlogs.earliest found
    refine ⟨iff_of_true rfl ⟨nonempty, r, earliest.fresh⟩, fun _ => ?_, fun h => absurd rfl h⟩
    exact ⟨r, notifications, row, earliest, notified, rfl,
      Cursor.advance_seen earliest.fresh.2.1 ..⟩

theorem matchRested (verdict : Verdict previewChars notifier logs now a o e) (hlogs : logs.Sound)
    (works : ¬Fails notifier logs now a)
    (htype : AlertType.ofJson a.settings.type = .ok .anyMatch) (rests : a.Rests now)
    (hquery : tokensOf a now = .ok tokens) (row i : Int) :
    MatchRested logs a tokens o (e.newRows row i now) (a.cursor.advance e.update) := by
  cases verdict with
  | failed fails => exact absurd fails works
  | rested phase type => cases htype.symm.trans type
  | checked tokens phase classified may => exact (rests.may_not classified may).elim
  | matched tokens phase r notifications classified may => exact (rests.may_not classified may).elim
  | counted tokens phase cutoff count classified may => exact (rests.may_not classified may).elim
  | exceeded tokens phase cutoff count notifications classified may =>
    exact (rests.may_not classified may).elim
  | skipped tokens' phase type query none =>
    obtain rfl := Except.ok.inj (hquery.symm.trans query)
    refine ⟨rfl, fun nonempty ⟨r, fresh⟩ => ?_, fun _ => ⟨rfl, Cursor.advance_empty _⟩⟩
    exact (hlogs.not_fresh_of_lastAfter (none.resolve_left nonempty) r fresh).elim
  | suppressed tokens' r phase type query nonempty found =>
    obtain rfl := Except.ok.inj (hquery.symm.trans query)
    have latest := hlogs.latest found
    refine ⟨rfl, fun _ _ => ⟨rfl, r, latest, Cursor.advance_seen latest.fresh.2.1 ..⟩, ?_⟩
    rintro (empty | nothing)
    · exact absurd empty nonempty
    · exact absurd ⟨r, latest.fresh⟩ nothing

/-- In its cooldown an alert on many records is left as it is. -/
theorem velocityRested (verdict : Verdict previewChars notifier logs now a o e)
    (works : ¬Fails notifier logs now a)
    (htype : AlertType.ofJson a.settings.type = .ok .velocity) (rests : a.Rests now)
    (row i : Int) :
    o = .skipped ∧ e.newRows row i now = [] ∧ a.cursor.advance e.update = a.cursor := by
  cases verdict with
  | failed fails => exact absurd fails works
  | rested => exact ⟨rfl, rfl, Cursor.advance_empty _⟩
  | skipped tokens phase type => cases htype.symm.trans type
  | suppressed tokens r phase type => cases htype.symm.trans type
  | checked tokens phase classified may => exact (rests.may_not classified may).elim
  | matched tokens phase r notifications classified may =>
    exact (rests.may_not classified may).elim
  | counted tokens phase cutoff count classified may => exact (rests.may_not classified may).elim
  | exceeded tokens phase cutoff count notifications classified may =>
    exact (rests.may_not classified may).elim

theorem velocityDecided (verdict : Verdict previewChars notifier logs now a o e)
    (timed : logs.Timed) (answerable : logs.Answerable tokens) (hnow : now.Current)
    (works : ¬Fails notifier logs now a)
    (htype : AlertType.ofJson a.settings.type = .ok .velocity) (awake : ¬a.Rests now)
    (hquery : tokensOf a now = .ok tokens) {threshold window : Int}
    (windowed : a.Windowed now threshold window) (row i : Int) :
    VelocityDecided notifier logs now i a tokens o (e.newRows row i now)
      (a.cursor.advance e.update) threshold window := by
  cases verdict with
  | failed fails => exact absurd fails works
  | rested phase => exact absurd phase awake
  | skipped tokens phase => exact absurd phase awake
  | suppressed tokens r phase => exact absurd phase awake
  | checked tokens phase classified may type => cases htype.symm.trans type
  | matched tokens phase r notifications classified may type => cases htype.symm.trans type
  | counted tokens' phase cutoff count classified may type query begins counts few =>
    obtain rfl := Except.ok.inj (hquery.symm.trans query)
    obtain rfl := windowed.count_eq hnow timed answerable begins counts
    rw [windowed.threshold_eq, Json.isAbove_int] at few
    have hlt := of_decide_eq_true (Except.ok.inj few)
    refine ⟨iff_of_false nofun (Int.not_le.mpr hlt), nofun, fun _ => ⟨rfl, rfl, rfl⟩⟩
  | exceeded tokens' phase cutoff count notifications classified may type query begins counts
      enough notified =>
    obtain rfl := Except.ok.inj (hquery.symm.trans query)
    obtain rfl := windowed.count_eq hnow timed answerable begins counts
    rw [windowed.threshold_eq, Json.isAbove_int] at enough
    have hle := Int.not_lt.mp (of_decide_eq_false (Except.ok.inj enough))
    rw [windowed.threshold_eq, windowed.window_eq] at notified ⊢
    exact ⟨iff_of_true rfl hle, fun _ => ⟨notifications, row, notified, rfl, rfl⟩,
      fun h => absurd rfl h⟩

end Verdict

namespace Evaluator

/-- A tick with the report and the book left behind has treated the alert `a` under the id `i` so:
its outcome is reported, its new triggers are recorded after the old ones, and the cursor is moved
but nothing else of the alert is changed. -/
structure Treated (w : World) (report : TickReport) (b : AlertBook) (i : Int) (a : Alert)
    (o : Outcome) (new : List History) (c : Cursor) : Prop where
  reported : report.outcomes.get? (some i) = some o
  stored : b.alerts.get? i = some { a with cursor := c }
  recorded : b.rows i = w.book.rows i ++ new

/-- **What a tick decides on an enabled alert.**  Let the stores be ones that requests lead to, the
records have times with an offset, the time be a current one, and the settings of the alert have
their types.  If the tokens of its query have an answer on every record and the notifier does not
fail, then the tick comes to the decision that its type and its cooldown ask for. -/
theorem tick_decides {w : World} (book : w.book.Reachable) (logs : w.logs.Reachable)
    (timed : w.logs.Timed) (now : w.clock.Current) {i : Int} {a : Alert}
    (stored : w.book.alerts.get? i = some a) (enabled : a.settings.enabled = .bool true) {q : String}
    (query : a.settings.searchQuery = .str q) {c : Int} (cooldown : a.settings.cooldown = .int c)
    {type : AlertType} (htype : a.settings.type = .str type.name)
    (answerable : ∀ tokens, Query.parse q.toList w.clock = .ok tokens → w.logs.Answerable tokens)
    {notifier : Notifier}
    (notifies : ∀ type data, ∃ notifications,
      notifier (w.book.load a) type data = .ok notifications)
    (previewChars : Int) :
    ∃ tokens report b, Query.parse q.toList w.clock = .ok tokens ∧
      w.run notifier (tick previewChars) = (.ok report, { w with book := b }) ∧
      (type = .anyMatch → a.Rests w.clock → ∃ o new c, Treated w report b i a o new c ∧
        MatchRested w.logs (w.book.load a) tokens o new c) ∧
      (type = .anyMatch → ¬a.Rests w.clock → ∃ o new c, Treated w report b i a o new c ∧
        MatchDecided previewChars notifier w.logs w.clock i (w.book.load a) tokens o new c) ∧
      (type = .velocity → a.Rests w.clock → Treated w report b i a .skipped [] a.cursor) ∧
      (type = .velocity → ¬a.Rests w.clock → ∀ threshold window,
        a.Windowed w.clock threshold window → ∃ o new c, Treated w report b i a o new c ∧
          VelocityDecided notifier w.logs w.clock i (w.book.load a) tokens o new c
            threshold window) := by
  obtain ⟨tokens, hquery, -⟩ := Query.parse_sound now q.toList
  obtain ⟨report, b, run, -, -, -, ticked⟩ := run_tick notifier previewChars book.keyed
  refine ⟨tokens, report, b, hquery, run, ?_⟩
  cases ticked i with
  | kept off =>
    have hoff := off a stored
    rw [enabled] at hoff
    cases hoff
  | judged a' o stored' _ reported judged =>
    obtain rfl := Option.some.inj (stored.symm.trans stored')
    obtain ⟨e, row, verdict, -, halert, hrows⟩ := judged
    rw [stored] at halert
    have treated : Treated w report b i a o (e.newRows row i w.clock)
        (a.cursor.advance e.update) :=
      ⟨reported, halert, hrows⟩
    have hsearch : (w.book.load a).settings.searchQuery = .str q := query
    have htokens : tokensOf (w.book.load a) w.clock = .ok tokens := by
      rw [tokensOf, hsearch]
      exact hquery
    have hofJson : AlertType.ofJson (w.book.load a).settings.type = .ok type := by
      have htype : (w.book.load a).settings.type = .str type.name := htype
      rw [htype, AlertBook.AlertType_ofJson_name]
    have works (windowed : type = .velocity → ¬(w.book.load a).Rests w.clock →
        ∃ threshold window, (w.book.load a).Windowed w.clock threshold window) :
        ¬Fails notifier w.logs w.clock (w.book.load a) :=
      not_fails now cooldown hofJson windowed htokens (answerable tokens hquery) (fun _ => timed)
        notifies
    refine ⟨?_, ?_, ?_, ?_⟩
    · rintro rfl rests
      exact ⟨o, _, _, treated,
        verdict.matchRested logs.sound (works nofun) hofJson rests htokens row i⟩
    · rintro rfl awake
      exact ⟨o, _, _, treated,
        verdict.matchDecided logs.sound (works nofun) hofJson awake htokens row i⟩
    · rintro rfl rests
      obtain ⟨rfl, none, still⟩ :=
        verdict.velocityRested (works fun _ awake => absurd rests awake) hofJson rests row i
      have still' : a.cursor.advance e.update = a.cursor := still
      rwa [none, still'] at treated
    · rintro rfl awake threshold window windowed
      have windowed' : (w.book.load a).Windowed w.clock threshold window :=
        ⟨windowed.threshold_eq, windowed.window_eq, windowed.begins⟩
      exact ⟨o, _, _, treated, verdict.velocityDecided timed (answerable tokens hquery) now
        (works fun _ _ => ⟨threshold, window, windowed'⟩) hofJson awake htokens windowed' row i⟩

end Evaluator

namespace Sample

/-- An alert on the records with a word, and a record with the word. -/
def watched : World where
  book := (AlertBook.empty.answer (.save alert false)).2
  logs := (LogStore.empty.append "app" "an error" "error" noon []).1
  clock := noon

/-- The alert as it is stored. -/
def watching : Alert :=
  { alert with id := some 1 }

end Sample

open Sample in
theorem Evaluator.tick_decides_of_watched :
    watched.book.Reachable ∧ watched.logs.Reachable ∧ watched.logs.Timed ∧ watched.clock.Current ∧
      watched.book.alerts.get? 1 = some watching ∧ ¬watching.Rests watched.clock ∧
      ∃ tokens report b new c, Query.parse "error".toList watched.clock = .ok tokens ∧
        watched.logs.Answerable tokens ∧
        watched.run World.silent (tick 200) = (.ok report, { watched with book := b }) ∧
        Treated watched report b 1 watching .triggered new c ∧
        MatchDecided 200 World.silent watched.logs watched.clock 1 (watched.book.load watching) tokens
          .triggered new c := by
  have book : watched.book.Reachable := .answer .empty _
  have logs : watched.logs.Reachable := .append .empty ..
  have timed : watched.logs.Timed := fun r hr => by
    obtain rfl := List.mem_singleton.mp hr
    rfl
  have now : watched.clock.Current := Sample.reading_current
  have stored : watched.book.alerts.get? 1 = some watching := rfl
  have htype : watching.settings.type = .str AlertType.anyMatch.name := rfl
  have awake : ¬watching.Rests watched.clock := fun h => nomatch h
  have answerable (tokens : List Token)
      (hquery : Query.parse "error".toList watched.clock = .ok tokens) :
      watched.logs.Answerable tokens :=
    .of_parse hquery (by decide +kernel)
  have notifies (type : AlertType) (data : Json) : ∃ notifications,
      World.silent (watched.book.load watching) type data = .ok notifications :=
    ⟨_, rfl⟩
  obtain ⟨tokens, report, b, hquery, run, -, decided, -⟩ :=
    Evaluator.tick_decides book logs timed now stored rfl rfl rfl htype answerable notifies 200
  obtain ⟨o, new, c, treated, decision⟩ := decided rfl awake
  have outcome : (watched.run World.silent (tick 200)).1.toOption.bind
      (·.outcomes.get? (some 1)) = some .triggered := by
    decide +kernel
  rw [run] at outcome
  obtain rfl := Option.some.inj (treated.reported.symm.trans outcome)
  exact ⟨book, logs, timed, now, stored, awake, tokens, report, b, new, c, hquery,
    answerable tokens hquery, run, treated, decision⟩

end LogAlert
