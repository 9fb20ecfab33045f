import LogAlert.Proofs.MatchProgress
import LogAlert.Proofs.TickDecisions

/-!
# Edits that enable an alert

An alert that is created or switched on starts from the newest record.  An edit of its settings may
enable it as well, but keeps the cursor: the records that came in while the alert was disabled may
trigger it, unless the cursor has seen them.

That nothing else makes an alert trigger on old records is the invariant of all runs.  That every
such edit may do so is shown by going on with the run: the alert is given a query that every record
answers, the clock is set to a time at which its cooldown is over, and the next tick triggers it on
a record that its cursor has not seen.

## Main definitions

* `Run.TriggersAfter` : from here on an alert triggers only on records newer than a given one.
* `Cursor.Rested` : the shortest cooldown is over by a time.
* `Alert.catchAll` : an alert whose query every record answers.

## Main results

* `World.triggers_catchAll` : such an alert triggers on a record that its cursor has not seen.
* `Run.triggersAfter_iff` : after which edits the newest record does not trigger the alert.
* `Run.matches_ascend` : the records that trigger an alert are in ascending order, and newer than
  what was passed over.
* `Run.edited_match` : an edit lets the newest record trigger the alert.
-/

namespace LogAlert

open LogAlert.Span (second)

/-- Whatever happens after the steps `past`, which led to the world `w`, the records that trigger
the alert `i` from then on are newer than the given one. -/
def Run.TriggersAfter (past : List Step) (w : World) (i n : Int) : Prop :=
  ∀ more w', Run (past ++ more) w' → ∀ r ∈ w'.book.rows i, r ∉ w.book.rows i →
    ∀ m, r.logId? = some m → n < m

/-- The shortest cooldown after the last trigger is over at a time. -/
def Cursor.Rested (c : Cursor) (now : Moment) : Prop :=
  ∀ last, c.lastTriggered = some last → last.instant + minCooldown * second ≤ now.instant

/-! ### An alert on any record -/

namespace Query

/-- A query that every record answers. -/
def anySource : String :=
  "source:\"*\""

theorem parse_anySource (now : Moment) :
    parse anySource.toList now = .ok [⟨false, .source "*"⟩] := by
  have alone : Lexeme.tokenize anySource.toList = [anySource.toList] := by decide +kernel
  rw [parse, alone]
  rfl

end Query

theorem Pattern.occursIn_star (text : String) : occursIn "*" text = true := by
  have parts : Text.splitOn '*' "*".toList = [[], []] := by decide
  have gap (cs : List Char) : partsMatch [[], []] cs = true := by
    cases cs <;> rfl
  rw [occursIn, parts]
  cases text.toList with
  | nil => exact gap []
  | cons c cs => rw [anywhere, gap, Bool.true_or]

theorem Token.holds_anySource (r : Record) : Token.holds ⟨false, .source "*"⟩ r = .ok true := by
  have matched : Match.sourceMatches r "*" = true := by
    rw [Match.sourceMatches, Pattern.occursIn_star, Bool.true_or]
  change Except.ok (Match.sourceMatches r "*" != false) = .ok true
  rw [matched]
  rfl

namespace Alert

/-- An enabled alert with the shortest cooldown whose query every record answers. -/
def catchAll (i : Int) : Alert where
  id := some i
  settings :=
    { name := .str "all"
      searchQuery := .str Query.anySource
      type := .str AlertType.anyMatch.name
      description := .str ""
      enabled := .bool true
      threshold := .null
      window := .null
      cooldown := .int minCooldown
      ownerId := .null }
  channels := []
  cursor := .empty

theorem validate_catchAll (i : Int) : (catchAll i).validate = .ok () := by
  -- the id is not looked at, so the settings of one of these alerts are those of all
  have valid : (catchAll 0).settings.validate.toOption.isSome := by decide +kernel
  change (catchAll 0).settings.validate = .ok ()
  cases h : (catchAll 0).settings.validate with
  | error e =>
    rw [h] at valid
    cases valid
  | ok _ => rfl

end Alert

/-- The settings of an alert that is there may be exchanged for these.  The cursor and the triggers
are kept. -/
theorem World.step_catchAll {w : World} {i : Int} {a : Alert}
    (stored : w.book.alerts.get? i = some a) :
    ∃ b, w.step (.updateAlert (.catchAll i) none) = { w with book := b } ∧
      b.alerts.get? i = some { Alert.catchAll i with cursor := a.cursor } ∧
      b.rows i = w.book.rows i := by
  have hid : (Alert.catchAll i).id = some i := rfl
  rw [World.step, Service.run_updateAlert hid, Alert.validate_catchAll]
  refine ⟨_, rfl, ?_⟩
  rw [AlertBook.save_old hid, AlertBook.get?_store, if_pos (beq_self_eq_true i),
    AlertBook.cursorFor, stored]
  exact ⟨rfl, rfl⟩

/-- When its cooldown is over, such an alert triggers in a tick, and if there is a record that its
cursor has not seen, on a record up to this one. -/
theorem World.triggers_catchAll {w : World} (hb : w.book.Sound) (hlogs : w.logs.Sound) {i : Int}
    {c : Cursor} (stored : w.book.alerts.get? i = some { Alert.catchAll i with cursor := c })
    (now : w.clock.Current) (rested : c.Rested w.clock) {x : Record} (mem : x ∈ w.logs.records)
    (unseen : ¬c.Sees x.id) :
    ∃ r n, (w.step (.tick 0 silent)).book.rows i = w.book.rows i ++ [r] ∧ r.logId? = some n ∧
      n ≤ x.id := by
  obtain ⟨report, b, run, -, -, -, ticked⟩ := Evaluator.run_tick silent 0 hb.keyed
  rw [World.step, run]
  cases ticked i with
  | kept off => cases off _ stored
  | judged a o stored' enabled reported judged =>
    obtain rfl := Option.some.inj (stored.symm.trans stored')
    obtain ⟨e, row, verdict, -, -, hrows⟩ := judged
    generalize hloaded : w.book.load { Alert.catchAll i with cursor := c } = a at verdict
    have cursor : a.cursor = c := hloaded ▸ rfl
    have settings : a.settings = (Alert.catchAll i).settings := hloaded ▸ rfl
    have htype : AlertType.ofJson a.settings.type = .ok .anyMatch := by
      rw [settings]
      exact AlertBook.AlertType_ofJson_name .anyMatch
    have cooldown : a.settings.cooldown = .int minCooldown := by
      rw [settings]
      rfl
    have hquery : Evaluator.tokensOf a w.clock = .ok [⟨false, .source "*"⟩] := by
      rw [Evaluator.tokensOf, settings]
      exact Query.parse_anySource w.clock
    have answers (r : Record) : ∀ t ∈ [⟨false, .source "*"⟩], Token.holds t r = .ok true := by
      intro t ht
      rw [List.mem_singleton.mp ht]
      exact Token.holds_anySource r
    have single : AlertType.anyMatch ≠ .velocity := by decide
    have works : ¬Evaluator.Fails silent w.logs w.clock a :=
      Evaluator.not_fails now cooldown htype (absurd · single) hquery
        (fun r _ t ht => ⟨true, answers r t ht⟩) (absurd · single) fun _ _ => ⟨_, rfl⟩
    have awake : ¬a.Rests w.clock := by
      intro rests
      rw [Alert.Rests, cooldown, cursor] at rests
      cases hlast : c.lastTriggered with
      | none =>
        rw [hlast] at rests
        cases rests
      | some last =>
        rw [hlast, Phase.classify_eq now.isAware last (Int.le_refl _) (by decide),
          if_neg (Int.not_lt.mpr (rested last hlast))] at rests
        cases rests
    have fresh : w.logs.Fresh a.cursor.lastSeen [⟨false, .source "*"⟩] x := by
      refine ⟨mem, fun m hm => ?_, answers x⟩
      by_contra! le
      exact unseen ⟨m, cursor ▸ hm, le⟩
    obtain ⟨triggered_iff, triggered, -⟩ :=
      verdict.matchDecided hlogs works htype awake hquery row i
    obtain ⟨r, notifications, row', earliest, -, hnew, -⟩ :=
      triggered (triggered_iff.mpr ⟨List.cons_ne_nil _ _, x, fresh⟩)
    rw [hnew] at hrows
    exact ⟨_, r.id, hrows, rfl, earliest.least x fresh⟩

/-- No event removes a record. -/
theorem World.mem_records_step {w : World} (hb : w.book.Sound) {e : Event} (allowed : e.Allowed w)
    {x : Record} (mem : x ∈ w.logs.records) : x ∈ (w.step e).logs.records := by
  generalize hafter : w.step e = w'
  have change := hafter ▸ World.change hb allowed
  cases change with
  | logged logs grown =>
    cases grown with
    | same => exact mem
    | added r newer => exact List.mem_append_left [r] mem
  | clocked => exact mem
  | administered => exact mem
  | ticked => exact mem

namespace Run

variable {past : List Step} {w : World} {e : Event} {i m n : Int}

/-- A record that triggers an alert is newer than what was passed over and seen before. -/
theorem beyond (run : Run past w) {r : History} (mem : r ∈ w.book.rows i) (hn : r.logId? = some n)
    {step : Step} (hs : step ∈ past) (new : r ∉ step.after.book.rows i)
    (passes : step.PassesSeen i m) : m < n := by
  cases stored : w.book.alerts.get? i with
  | none =>
    rw [run.sound.rows_nil stored] at mem
    cases mem
  | some a => exact (run.seen stored).beyond r mem n hn step hs new m passes

/-- The records that trigger an alert are in ascending order, and each trigger on a single record
names it. -/
theorem ascending (run : Run past w) (i : Int) :
    (w.book.rows i).Pairwise (fun r s => ∀ m n, r.logId? = some m → s.logId? = some n → m < n) ∧
      ∀ r ∈ w.book.rows i, r.type = .anyMatch → ∃ n, r.logId? = some n := by
  cases stored : w.book.alerts.get? i with
  | none =>
    rw [run.sound.rows_nil stored]
    exact ⟨List.Pairwise.nil, nofun⟩
  | some a =>
    have seen := run.seen stored
    exact ⟨seen.ascending, seen.known⟩

/-- As long as the cursor of an alert has not seen a record, some continuation of the run triggers
the alert on a record up to it. -/
theorem exists_trigger (run : Run past w) {a : Alert} (stored : w.book.alerts.get? i = some a)
    {now : Moment} (current : now.Current) (rested : a.cursor.Rested now) {x : Record}
    (mem : x ∈ w.logs.records) (unseen : ¬a.cursor.Sees x.id) :
    ¬TriggersAfter past w i x.id := by
  intro after
  obtain ⟨b, hb, there, rows⟩ := World.step_catchAll stored
  -- the alert is edited, the clock is set to the time, and a tick follows
  have edited := run.next (.updateAlert (.catchAll i) none)
    ⟨i, rfl, Option.isSome_iff_exists.mpr ⟨a, stored⟩⟩
  rw [hb] at edited
  have timed := edited.next (.setClock now) current.isAware
  have ticked := timed.next (.tick 0 World.silent) trivial
  obtain ⟨r, n, hrows, hn, le⟩ := World.triggers_catchAll timed.sound timed.logs_sound there current
    rested mem unseen
  change _ = b.rows i ++ [r] at hrows
  rw [rows] at hrows
  have asc := (ticked.ascending i).1
  rw [hrows] at asc
  -- a trigger is on a record after those of all earlier triggers, so this one is new
  have later := (List.pairwise_append.mp asc).2.2
  have new : r ∉ w.book.rows i := fun old =>
    Int.lt_irrefl n (later r old r (List.mem_singleton_self r) n n hn hn)
  rw [List.append_assoc, List.append_assoc] at ticked
  have above := after _ _ ticked r (hrows ▸ List.mem_concat_self) new n hn
  exact absurd above (Int.not_lt.mpr le)

/-- **When an edit enables an alert as a switch does.**  After an edit that enables it, the alert
triggers only on records that are yet to come exactly if its cursor, which the edit keeps, has seen
the newest one.  The time is one at which the alert could trigger again. -/
theorem triggersAfter_iff (run : Run past w) (allowed : e.Allowed w)
    (reopens : Step.Reopens ⟨w, e⟩ i) (newest : w.logs.maxId = some n) {now : Moment}
    (current : now.Current)
    (rested : ∀ a, (w.step e).book.alerts.get? i = some a → a.cursor.Rested now) :
    TriggersAfter (past ++ [⟨w, e⟩]) (w.step e) i n ↔ Step.Sees ⟨w, e⟩ i n := by
  constructor
  · intro after
    obtain ⟨a, stored, -⟩ := reopens.enables.on
    change (w.step e).book.alerts.get? i = some a at stored
    by_contra unseen
    obtain ⟨x, hx, rfl⟩ := LogStore.Sound.exists_maxId newest
    exact (run.next e allowed).exists_trigger stored current (rested a stored)
      (World.mem_records_step run.sound allowed hx) (fun seen => unseen ⟨a, stored, seen⟩) after
  · intro sees more w' run' r hr new m hm
    have taken : ⟨w, e⟩ ∈ past ++ [⟨w, e⟩] ++ more :=
      List.mem_append_left more (List.mem_append_right past (List.mem_singleton_self _))
    exact run'.beyond hr hm taken new ⟨.enabled reopens.enables newest, fun _ => sees⟩

/-- **No record triggers an alert late, twice or out of order**, unless an edit enabled the alert.
In every reachable world, every trigger of an alert on a single record names the record; the records
are in ascending order; and each of them is newer than all that the alert was to pass over before
the trigger: those that were there when it was created or enabled again, and those that answered its
query when it was suppressed or skipped.  For an edit that enabled it this needs that the cursor had
seen the newest record, and otherwise there is a continuation in which an old record triggers it. -/
theorem matches_ascend (run : Run past w) (i : Int) :
    (w.book.rows i).Pairwise (fun r s => ∀ m n, r.logId? = some m → s.logId? = some n → m < n) ∧
      (∀ r ∈ w.book.rows i, r.type = .anyMatch → ∃ n, r.logId? = some n ∧
        ∀ step ∈ past, r ∉ step.after.book.rows i → ∀ m, step.Passes i m →
          (step.Reopens i → step.Sees i m) → m < n) ∧
      ∀ e n now, e.Allowed w → Step.Reopens ⟨w, e⟩ i → w.logs.maxId = some n → now.Current →
        (∀ a, (w.step e).book.alerts.get? i = some a → a.cursor.Rested now) →
        (TriggersAfter (past ++ [⟨w, e⟩]) (w.step e) i n ↔ Step.Sees ⟨w, e⟩ i n) := by
  obtain ⟨ascending, known⟩ := run.ascending i
  refine ⟨ascending, fun r hr type => ?_, fun e n now allowed reopens newest current rested =>
    run.triggersAfter_iff allowed reopens newest current rested⟩
  obtain ⟨n, hn⟩ := known r hr type
  exact ⟨n, hn, fun step hs new m passes reopens => run.beyond hr hn hs new ⟨passes, reopens⟩⟩

end Run

/-- An edit of an alert that is off before it and on after it enables the alert. -/
theorem Step.Reopens.of_edit {w : World} {a : Alert} {channelIds : Option (List Int)} {i : Int}
    (id : a.id = some i)
    (off : (w.book.alerts.get? i).map (·.settings.enabled.isTruthy) = some false)
    (on : ((w.step (.updateAlert a channelIds)).book.alerts.get? i).map
      (·.settings.enabled.isTruthy) = some true) :
    Step.Reopens ⟨w, .updateAlert a channelIds⟩ i :=
  ⟨⟨Option.map_eq_some_iff.mp off, Option.map_eq_some_iff.mp on⟩, a, channelIds, rfl, id⟩

namespace Sample

/-- An edit of the alert that sets it on and changes nothing else. -/
def edit : Event :=
  .updateAlert watching none

/-- The first record comes in while the alert is off. -/
def missed : World :=
  (((World.start noon).step (.createAlert alert [])).step (.toggleAlert watching)).step failure

/-- The alert triggers on the first record, passes over the second in its cooldown, and triggers on
the third. -/
def busy : World :=
  [failure, tick, failure, tick, .setClock (later 300), failure, tick].foldl World.step
    ((World.start noon).step (.createAlert alert []))

/-- The fourth record comes in while the alert is off. -/
def paused : World :=
  (busy.step (.toggleAlert watching)).step failure

theorem run_missed : ∃ past, Run past missed := by
  have created := (Run.start noon rfl).next (.createAlert alert []) trivial
  exact ⟨_, (created.next (.toggleAlert watching) trivial).next failure trivial⟩

theorem run_paused : ∃ past, Run past paused := by
  have created := (Run.start noon rfl).next (.createAlert alert []) trivial
  have triggered := (created.next failure trivial).next tick trivial
  have suppressed := (triggered.next failure trivial).next tick trivial
  have rested := (suppressed.next (.setClock (later 300)) rfl).next failure trivial
  have busy := rested.next tick trivial
  exact ⟨_, (busy.next (.toggleAlert watching) trivial).next failure trivial⟩

theorem later_current : (later 400).Current where
  utc := rfl
  low := by decide
  high := by decide

end Sample

open Sample in
/-- The alert triggered on the first and the third record and passed over the second.  The fourth is
the newest one when an edit enables the alert, and triggers it in some continuation. -/
theorem Run.matches_ascend_of_two :
    ∃ past, Run past paused ∧ (paused.book.rows 1).map History.logId? = [some 1, some 3] ∧
      (paused.book.rows 1).Pairwise
        (fun r s => ∀ m n, r.logId? = some m → s.logId? = some n → m < n) ∧
      (∀ r ∈ paused.book.rows 1, r.type = .anyMatch → ∃ n, r.logId? = some n ∧
        ∀ step ∈ past, r ∉ step.after.book.rows 1 → ∀ m, step.Passes 1 m →
          (step.Reopens 1 → step.Sees 1 m) → m < n) ∧
      Step.Reopens ⟨paused, edit⟩ 1 ∧ paused.logs.maxId = some 4 ∧
      ¬Run.TriggersAfter (past ++ [⟨paused, edit⟩]) (paused.step edit) 1 4 := by
  obtain ⟨past, run⟩ := run_paused
  obtain ⟨ascending, known, follows⟩ := run.matches_ascend 1
  have allowed : edit.Allowed paused := ⟨1, rfl, by decide +kernel⟩
  have reopens : Step.Reopens ⟨paused, edit⟩ 1 :=
    .of_edit rfl (by decide +kernel) (by decide +kernel)
  have newest : paused.logs.maxId = some 4 := by decide +kernel
  have cursor : ((paused.step edit).book.alerts.get? 1).map (·.cursor) =
      some ⟨some 3, some (later 300), some (later 300)⟩ := by
    decide +kernel
  have rested (a : Alert) (stored : (paused.step edit).book.alerts.get? 1 = some a) :
      a.cursor.Rested (later 400) := by
    rw [stored, Option.map_some, Option.some_inj] at cursor
    intro last triggered
    rw [cursor] at triggered
    obtain rfl := Option.some.inj triggered
    decide
  have sees_iff := follows edit 4 (later 400) allowed reopens newest later_current rested
  refine ⟨past, run, by decide +kernel, ascending, known, reopens, newest, fun after => ?_⟩
  obtain ⟨a, stored, m, seen, le⟩ := sees_iff.mp after
  change (paused.step edit).book.alerts.get? 1 = some a at stored
  rw [stored, Option.map_some, Option.some_inj] at cursor
  rw [cursor] at seen
  obtain rfl := Option.some.inj seen
  exact absurd le (by decide)

open Sample in
/-- A record that came in while an alert was off triggers it after an edit, though it was the newest
one when the alert was enabled. -/
theorem Run.edited_match :
    ¬∀ (past : List Step) (w : World) (i : Int), Run past w →
      ∀ r ∈ w.book.rows i, r.type = .anyMatch → ∃ n, r.logId? = some n ∧
        ∀ step ∈ past, r ∉ step.after.book.rows i → ∀ m, step.Passes i m → m < n := by
  intro retained
  obtain ⟨past, run⟩ := run_missed
  have edited := run.next edit ⟨1, rfl, by decide +kernel⟩
  have reopens : Step.Reopens ⟨missed, edit⟩ 1 :=
    .of_edit rfl (by decide +kernel) (by decide +kernel)
  have rows : (((missed.step edit).step tick).book.rows 1).map (fun r => (r.type, r.logId?)) =
      [(.anyMatch, some 1)] := by
    decide +kernel
  obtain ⟨r, hr, found⟩ : ∃ r ∈ ((missed.step edit).step tick).book.rows 1,
      (r.type, r.logId?) = (.anyMatch, some 1) := List.mem_map.mp (rows ▸ List.mem_singleton_self _)
  obtain ⟨type, id⟩ := Prod.ext_iff.mp found
  obtain ⟨n, hn, above⟩ := retained _ _ 1 (edited.next tick trivial) r hr type
  have new : (missed.step edit).book.rows 1 = [] := by
    rw [← List.length_eq_zero_iff]
    decide +kernel
  have fresh : r ∉ (Step.mk missed edit).after.book.rows 1 := by
    rw [Step.after, new]
    exact List.not_mem_nil
  have passes : Step.Passes ⟨missed, edit⟩ 1 1 := .enabled reopens.enables (by decide +kernel)
  have late := above ⟨missed, edit⟩ (List.mem_append_left _ (List.mem_append_right past
    (List.mem_singleton_self _))) fresh 1 passes
  obtain rfl := Option.some.inj (hn.symm.trans id)
  exact absurd late (Int.lt_irrefl 1)

end LogAlert
