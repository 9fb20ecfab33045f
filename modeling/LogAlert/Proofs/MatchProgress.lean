import LogAlert.Proofs.Change
import LogAlert.Proofs.Courses

/-!
# Records trigger an alert once and in order

A record never triggers an alert after a later one did, nor twice, nor if it was in the log store
when the alert was created or switched on again, nor if the alert passed it over in a cooldown.  The
invariant: whatever must not trigger an alert any more is not newer than the record that its
cursor has seen, and a record triggers only if it is newer.

An alert may also be enabled by an edit of its settings.  An edit keeps the cursor, so the records
that came in while the alert was disabled are passed over only as far as the cursor has seen them.

## Main definitions

* `History.logId?` : the record of a trigger on a single record.
* `Step.Enables`, `Step.Reopens` : the steps that enable an alert, and the edits among them.
* `Step.Passes` : the steps by which an alert is to pass over a record.
* `Step.Sees` : the cursor of an alert has seen a record.
* `SeenInvariant` : no record that was passed over is newer than the one that the cursor has seen.

## Main results

* `Step.Passes.sees` : the cursor has seen what is passed over, unless an edit enables the alert.
* `Run.seen` : every run keeps the invariant.
-/

namespace LogAlert

/-- The id of the record that triggered an alert on single records. -/
def History.logId? (r : History) : Option Int :=
  match r.type, r.data with
  | .anyMatch, .obj fields =>
    match Json.field? fields "log_id" with
    | some (.int n) => some n
    | _ => none
  | _, _ => none

/-- The cursor has seen the record. -/
def Cursor.Sees (c : Cursor) (n : Int) : Prop :=
  ∃ m, c.lastSeen = some m ∧ n ≤ m

namespace Step

/-- The step enables the alert `i`, which was disabled. -/
structure Enables (s : Step) (i : Int) : Prop where
  off : ∃ a, s.before.book.alerts.get? i = some a ∧ a.settings.enabled.isTruthy = false
  on : ∃ a, s.after.book.alerts.get? i = some a ∧ a.settings.enabled.isTruthy

/-- The step enables the alert `i` by an edit of its settings. -/
structure Reopens (s : Step) (i : Int) : Prop where
  enables : s.Enables i
  edits : ∃ a channelIds, s.event = .updateAlert a channelIds ∧ a.id = some i

/-- After the step, a record with the id is not to trigger the alert `i` any more: it is the newest
one when the alert is created or enabled again, or it answers the query of the alert, of type any
match, in a tick that reports it suppressed or skipped. -/
inductive Passes (s : Step) (i : Int) : Int → Prop where
  | created {n : Int} (fresh : s.before.book.alerts.get? i = none)
      (there : (s.after.book.alerts.get? i).isSome) (newest : s.before.logs.maxId = some n) :
      Passes s i n
  | enabled {n : Int} (enables : s.Enables i) (newest : s.before.logs.maxId = some n) :
      Passes s i n
  | rested (previewChars : Int) (notifier : Notifier) (report : TickReport) (a : Alert)
      (tokens : List Token) (r : Record) (event : s.event = .tick previewChars notifier)
      (run : (s.before.run notifier (Evaluator.tick previewChars)).1 = .ok report)
      (outcome : report.outcomes.get? (some i) = some .suppressed ∨
        report.outcomes.get? (some i) = some .skipped)
      (stored : s.before.book.alerts.get? i = some a)
      (type : AlertType.ofJson a.settings.type = .ok .anyMatch)
      (query : Evaluator.tokensOf a s.before.clock = .ok tokens) (nonempty : tokens ≠ [])
      (mem : r ∈ s.before.logs.records) (holds : Token.holdAll tokens r = .ok true) :
      Passes s i r.id

/-- After the step, the cursor of the alert `i` has seen the record. -/
def Sees (s : Step) (i n : Int) : Prop :=
  ∃ a, s.after.book.alerts.get? i = some a ∧ a.cursor.Sees n

/-- A record is to be passed over, and if the step is an edit that enables the alert, the cursor has
seen it. -/
structure PassesSeen (s : Step) (i n : Int) : Prop where
  passes : s.Passes i n
  reopens : s.Reopens i → s.Sees i n

end Step

namespace Verdict

variable {previewChars : Int} {notifier : Notifier} {logs : LogStore} {now : Moment} {a : Alert}
  {o : Outcome} {e : Effect}

/-- The record seen moves to a newer one or stays.  A trigger on a single record is on the
record that it moves to. -/
theorem sees (hlogs : logs.Sound) (h : Verdict previewChars notifier logs now a o e) :
    (e.update.lastSeen = none ∧ ∀ row i, ∀ r ∈ e.newRows row i now, r.type = .velocity) ∨
      ∃ x ∈ logs.records, a.cursor.lastSeen.getD 0 < x.id ∧ e.update.lastSeen = some x.id ∧
        ((∀ row i, e.newRows row i now = []) ∨
          ∀ row i, ∃ r, e.newRows row i now = [r] ∧ r.logId? = some x.id) := by
  have none {e : Effect} (h : ∀ row i, e.newRows row i now = []) :
      ∀ row i, ∀ r ∈ e.newRows row i now, r.type = .velocity := by
    intro row i r hr
    rw [h] at hr
    cases hr
  cases h with
  | failed => exact .inl ⟨rfl, none fun _ _ => rfl⟩
  | rested => exact .inl ⟨rfl, none fun _ _ => rfl⟩
  | skipped => exact .inl ⟨rfl, none fun _ _ => rfl⟩
  | suppressed tokens x phase type query nonempty found =>
    obtain ⟨hmem, above, -⟩ := hlogs.lastAfter_some found
    exact .inr ⟨x, hmem, above, rfl, .inl fun _ _ => rfl⟩
  | checked => exact .inl ⟨rfl, none fun _ _ => rfl⟩
  | matched tokens phase x notifications classified may type query nonempty found notified =>
    obtain ⟨hmem, above, -⟩ := LogStore.firstAfter_some found
    exact .inr ⟨x, hmem, above, rfl, .inr fun _ _ => ⟨_, rfl, rfl⟩⟩
  | counted => exact .inl ⟨rfl, none fun _ _ => rfl⟩
  | exceeded =>
    refine .inl ⟨rfl, fun row i r hr => ?_⟩
    rw [List.mem_singleton.mp hr]

/-- An alert that ends suppressed or skipped has seen every record that answers its query. -/
theorem passes (hlogs : logs.Sound) (h : Verdict previewChars notifier logs now a o e)
    (outcome : o = .suppressed ∨ o = .skipped)
    (type : AlertType.ofJson a.settings.type = .ok .anyMatch) {tokens : List Token}
    (query : Evaluator.tokensOf a now = .ok tokens) (nonempty : tokens ≠ []) {x : Record}
    (mem : x ∈ logs.records) (holds : Token.holdAll tokens x = .ok true) :
    ∃ m, (a.cursor.advance e.update).lastSeen = some m ∧ x.id ≤ m := by
  cases h with
  | failed => rcases outcome with h | h <;> cases h
  | rested phase velocity =>
    rw [type] at velocity
    cases velocity
  | skipped tokens' phase type' query' none =>
    obtain rfl := Except.ok.inj (query.symm.trans query')
    have seen := hlogs.lastAfter_none (none.resolve_left nonempty) x mem holds
    have pos := hlogs.pos x mem
    change ∃ m, (a.cursor.advance .empty).lastSeen = some m ∧ x.id ≤ m
    rw [Cursor.advance_empty]
    cases hc : a.cursor.lastSeen with
    | none =>
      rw [hc] at seen
      exact absurd pos (Int.not_lt.mpr seen)
    | some m =>
      rw [hc] at seen
      exact ⟨m, rfl, seen⟩
  | suppressed tokens' r phase type' query' nonempty' found =>
    obtain rfl := Except.ok.inj (query.symm.trans query')
    obtain ⟨hmem, above, -, latest⟩ := hlogs.lastAfter_some found
    refine ⟨r.id, Cursor.lastSeen_advance_of_le rfl fun m hm => ?_, latest x mem holds⟩
    rw [hm] at above
    exact Int.le_of_lt above
  | checked => rcases outcome with h | h <;> cases h
  | matched => rcases outcome with h | h <;> cases h
  | counted => rcases outcome with h | h <;> cases h
  | exceeded => rcases outcome with h | h <;> cases h

end Verdict

/-! ### Steps -/

namespace Step

variable {w : World} {e : Event} {i : Int} {n : Int}

/-- What is passed over is not newer than the newest record. -/
theorem Passes.le_maxId (hlogs : w.logs.Sound) (h : Step.Passes ⟨w, e⟩ i n) :
    ∃ newest, w.logs.maxId = some newest ∧ n ≤ newest := by
  cases h with
  | created fresh there newest => exact ⟨n, newest, Int.le_refl n⟩
  | enabled enables newest => exact ⟨n, newest, Int.le_refl n⟩
  | rested previewChars notifier report a tokens r event run outcome stored type query nonempty
      mem =>
    exact hlogs.le_maxId mem

/-- A switch of another alert leaves an alert as it is. -/
theorem get?_toggleAlert {a : Alert} (hb : w.book.Sound) (other : a.id ≠ some i) :
    (w.step (.toggleAlert a)).book.alerts.get? i = w.book.alerts.get? i := by
  rw [World.step, Service.run_toggleAlert]
  cases found : w.book.get a.id with
  | none => rfl
  | some current =>
    obtain ⟨old, hget, rfl⟩ := Option.map_eq_some_iff.mp found
    obtain ⟨j, hid, stored⟩ := Option.bind_eq_some_iff.mp hget
    have hij : j ≠ i := fun h => other (h ▸ hid)
    have kept (on resetBaseline : Bool) (c : Cursor) :
        (w.book.save (Service.switched (w.book.load old) on c) resetBaseline).1.alerts.get? i =
          w.book.alerts.get? i := by
      have id : (Service.switched (w.book.load old) on c).id = some j := (hb.id_eq stored :)
      rw [AlertBook.save_old id, AlertBook.get?_store, if_neg (by simpa using hij)]
    dsimp only
    split
    · exact kept ..
    · exact kept ..

/-- An alert that is switched on starts from the newest record. -/
theorem seen_toggleAlert {a b : Alert} (hb : w.book.Sound) (id : a.id = some i)
    (stored : w.book.alerts.get? i = some b) (off : b.settings.enabled.isTruthy = false) :
    ∃ a', (w.step (.toggleAlert a)).book.alerts.get? i = some a' ∧
      a'.cursor.lastSeen = w.logs.maxId := by
  have found : w.book.get a.id = some (w.book.load b) := by
    rw [AlertBook.get, id, Option.bind_some, stored]
    rfl
  have hid : (Service.switched (w.book.load b) true
      { b.cursor with lastSeen := w.logs.maxId }).id = some i := (hb.id_eq stored :)
  have hoff : ((w.book.load b).settings.enabled.isTruthy) = false := off
  rw [World.step, Service.run_toggleAlert, found]
  dsimp only
  rw [hoff, if_neg Bool.false_ne_true]
  change ∃ a', (w.book.save (Service.switched (w.book.load b) true
      { b.cursor with lastSeen := w.logs.maxId }) true).1.alerts.get? i = some a' ∧ _
  rw [AlertBook.save_old hid, AlertBook.get?_store, if_pos (beq_self_eq_true i)]
  refine ⟨_, rfl, ?_⟩
  change (w.book.cursorFor i _ true).lastSeen = _
  rw [AlertBook.cursorFor, stored]
  rfl

/-- **An alert is enabled by an edit or by a switch.** -/
theorem Enables.reopens_or_toggles (hb : w.book.Sound) (h : Enables ⟨w, e⟩ i) :
    Reopens ⟨w, e⟩ i ∨ ∃ a, e = .toggleAlert a ∧ a.id = some i := by
  obtain ⟨old, stored, off⟩ := h.off
  obtain ⟨new, after, on⟩ := h.on
  change (w.step e).book.alerts.get? i = some new at after
  -- an alert that has the settings that it had is not enabled
  have changed : (w.step e).book.alerts.get? i ≠ w.book.alerts.get? i := fun same => by
    obtain rfl := Option.some.inj (after.symm.trans (same.trans stored))
    exact absurd (off.symm.trans on) nofun
  have edited {a : Alert} {j : Int} {channelIds : Option (List Int)} (id : a.id = some j)
      (other : j ≠ i → (w.step (.updateAlert a channelIds)).book.alerts.get? i =
        w.book.alerts.get? i) (event : e = .updateAlert a channelIds) : Reopens ⟨w, e⟩ i := by
    subst event
    by_cases hij : j = i
    · exact ⟨h, a, channelIds, rfl, hij ▸ id⟩
    · exact absurd (other hij) changed
  have edit := World.edit hb.keyed e
  generalize hbook : (w.step e).book = b at edit
  cases edit with
  | nothing => exact absurd (congrArg (·.alerts.get? i) hbook) changed
  | ticked unedited =>
    rw [hbook] at after
    obtain ⟨old', stored', settings⟩ := unedited.exists_settings after
    obtain rfl := Option.some.inj (stored.symm.trans stored')
    rw [settings, on] at off
    cases off
  | created valid linkable =>
    refine absurd ?_ changed
    rw [hbook, AlertBook.get?_create, if_neg]
    simpa using Int.ne_of_gt (hb.id_lt stored)
  | saved id valid kept =>
    refine .inl (edited id (fun hij => ?_) rfl)
    rw [hbook, AlertBook.save_old id, AlertBook.get?_store, if_neg (by simpa using hij)]
  | relinked id valid linkable =>
    refine .inl (edited id (fun hij => ?_) rfl)
    rw [hbook, AlertBook.alerts_setChannels, AlertBook.save_old id, AlertBook.get?_store,
      if_neg (by simpa using hij)]
  | @switched a old j there on c =>
    by_cases id : a.id = some i
    · exact .inr ⟨a, rfl, id⟩
    · exact absurd (get?_toggleAlert hb id) changed
  | @removed a j id =>
    rw [hbook, AlertBook.get?_delete] at after changed
    split at after
    · cases after
    · next hij => exact absurd (if_neg hij) changed
  | channelCreated | channelSaved =>
    refine absurd ?_ changed
    rw [hbook, AlertBook.alerts_saveChannel]
  | channelRemoved => exact absurd (congrArg (·.alerts.get? i) hbook) changed

/-- An alert that is created starts from the newest record. -/
theorem seen_created {a : Alert} (hb : w.book.Sound) (allowed : e.Allowed w)
    (fresh : w.book.alerts.get? i = none) (stored : (w.step e).book.alerts.get? i = some a) :
    a.cursor.lastSeen = w.logs.maxId := by
  generalize hafter : w.step e = w' at stored
  have change := hafter ▸ World.change hb allowed
  cases change with
  | logged => exact absurd (fresh.symm.trans stored) nofun
  | clocked => exact absurd (fresh.symm.trans stored) nofun
  | administered b administered =>
    cases administered.fate i with
    | kept alert rows => exact absurd (fresh.symm.trans (alert.symm.trans stored)) nofun
    | created a' fresh alert valid cursor rows =>
      obtain rfl := Option.some.inj (alert.symm.trans stored)
      rw [cursor]
    | edited old a' before => exact absurd (fresh.symm.trans before) nofun
    | disabled old a' before => exact absurd (fresh.symm.trans before) nofun
    | enabled old a' before => exact absurd (fresh.symm.trans before) nofun
    | removed alert rows => exact absurd (alert.symm.trans stored) nofun
  | ticked previewChars notifier report b run sound ticked =>
    cases ticked i with
    | judged a₀ o before => exact absurd (fresh.symm.trans before) nofun
    | kept off reported kept =>
      exact absurd (fresh.symm.trans (kept.1.symm.trans stored)) nofun

/-- **The cursor has seen what is passed over**, unless an edit enables the alert. -/
theorem Passes.sees (hb : w.book.Sound) (hlogs : w.logs.Sound) (allowed : e.Allowed w)
    (h : Passes ⟨w, e⟩ i n) (reopens : Reopens ⟨w, e⟩ i → Sees ⟨w, e⟩ i n) :
    Sees ⟨w, e⟩ i n := by
  cases h with
  | created fresh there newest =>
    obtain ⟨a, stored⟩ := Option.isSome_iff_exists.mp there
    change (w.step e).book.alerts.get? i = some a at stored
    exact ⟨a, stored, n, (seen_created hb allowed fresh stored).trans newest, Int.le_refl n⟩
  | enabled enables newest =>
    rcases enables.reopens_or_toggles hb with edit | ⟨a, rfl, id⟩
    · exact reopens edit
    · obtain ⟨b, stored, off⟩ := enables.off
      obtain ⟨a', ha', seen⟩ := seen_toggleAlert hb id stored off
      exact ⟨a', ha', n, seen.trans newest, Int.le_refl n⟩
  | rested previewChars notifier report a tokens r event run outcome stored type query nonempty mem
      holds =>
    change e = _ at event
    subst event
    obtain ⟨report', b, run', -, -, -, ticked⟩ :=
      Evaluator.run_tick notifier previewChars hb.keyed
    have hreport : report' = report := Except.ok.inj ((congrArg Prod.fst run').symm.trans run)
    have hafter : (w.step (.tick previewChars notifier)).book = b :=
      congrArg (fun x => x.2.book) run'
    cases ticked i with
    | judged a₀ o before enabled reported judged =>
      obtain rfl := Option.some.inj (stored.symm.trans before)
      rw [hreport] at reported
      rw [reported] at outcome
      obtain ⟨effect, row, verdict, -, halert, -⟩ := judged
      rw [before] at halert
      obtain ⟨m, hm, le⟩ := verdict.passes hlogs (outcome.imp Option.some.inj Option.some.inj) type
        query nonempty mem holds
      exact ⟨_, (congrArg (·.alerts.get? i) hafter).trans halert, m, hm, le⟩
    | kept off reported kept =>
      rw [hreport] at reported
      rw [reported] at outcome
      rcases outcome with h | h <;> cases h

end Step

/-! ### The invariant -/

/-- After a run, the cursor of an alert has seen the records that were passed over and those that
triggered the alert, and each of the latter was newer than all that were passed over before. -/
structure SeenInvariant (past : List Step) (logs : LogStore) (i : Int) (a : Alert)
    (rows : List History) : Prop where
  newest : ∀ m, a.cursor.lastSeen = some m → ∃ newest, logs.maxId = some newest ∧ m ≤ newest
  passed : ∀ step ∈ past, ∀ n, step.PassesSeen i n → a.cursor.Sees n
  known : ∀ r ∈ rows, r.type = .anyMatch → ∃ n, r.logId? = some n
  reached : ∀ r ∈ rows, ∀ n, r.logId? = some n → a.cursor.Sees n
  ascending : rows.Pairwise fun r s => ∀ m n, r.logId? = some m → s.logId? = some n → m < n
  beyond : ∀ r ∈ rows, ∀ n, r.logId? = some n → ∀ step ∈ past, r ∉ step.after.book.rows i →
    ∀ m, step.PassesSeen i m → m < n

namespace SeenInvariant

variable {past : List Step} {logs : LogStore} {i : Int} {a : Alert} {rows : List History}

/-- The cursor may move forward, up to the newest record. -/
theorem forward (h : SeenInvariant past logs i a rows) {a' : Alert}
    (le : ∀ m, a.cursor.lastSeen = some m → a'.cursor.Sees m)
    (newest : ∀ m, a'.cursor.lastSeen = some m → ∃ newest, logs.maxId = some newest ∧ m ≤ newest) :
    SeenInvariant past logs i a' rows := by
  have sees {n : Int} (hn : a.cursor.Sees n) : a'.cursor.Sees n := by
    obtain ⟨m, hm, hle⟩ := hn
    obtain ⟨m', hm', hle'⟩ := le m hm
    exact ⟨m', hm', Int.le_trans hle hle'⟩
  exact ⟨newest, fun step hs n hn => sees (h.passed step hs n hn), h.known,
    fun r hr n hn => sees (h.reached r hr n hn), h.ascending, h.beyond⟩

/-- Only the position of the cursor matters. -/
theorem congr (h : SeenInvariant past logs i a rows) {a' : Alert}
    (same : a'.cursor.lastSeen = a.cursor.lastSeen) : SeenInvariant past logs i a' rows :=
  h.forward (fun m hm => ⟨m, same.trans hm, Int.le_refl m⟩) fun m hm => h.newest m (same ▸ hm)

/-- New logs come in. -/
theorem grow {logs' : LogStore} (h : SeenInvariant past logs i a rows) (hlogs : logs.Sound)
    (grown : logs.Extends logs') : SeenInvariant past logs' i a rows :=
  ⟨fun m hm => grown.le_maxId hlogs (h.newest m hm), h.passed, h.known, h.reached, h.ascending,
    h.beyond⟩

/-- A step is taken after which the cursor has seen what it passes over. -/
theorem more (h : SeenInvariant past logs i a rows) {s : Step}
    (seen : ∀ n, s.PassesSeen i n → a.cursor.Sees n)
    (rows_mem : ∀ r ∈ rows, r ∈ s.after.book.rows i) :
    SeenInvariant (past ++ [s]) logs i a rows := by
  refine ⟨h.newest, fun step hs n hn => ?_, h.known, h.reached, h.ascending,
    fun r hr n hn step hs new m hm => ?_⟩
  · rcases List.mem_append.mp hs with hs | hs
    · exact h.passed step hs n hn
    · obtain rfl := List.mem_singleton.mp hs
      exact seen n hn
  · rcases List.mem_append.mp hs with hs | hs
    · exact h.beyond r hr n hn step hs new m hm
    · obtain rfl := List.mem_singleton.mp hs
      exact absurd (rows_mem r hr) new

/-- Triggers on many records have no part in it. -/
theorem append_velocity (h : SeenInvariant past logs i a rows) {new : List History}
    (velocity : ∀ r ∈ new, r.type = .velocity) : SeenInvariant past logs i a (rows ++ new) := by
  obtain ⟨newest, passed, known, reached, ascending, beyond⟩ := h
  have none {r : History} (hr : r ∈ new) : r.logId? = none := by
    rw [History.logId?, velocity r hr]
  have old {r : History} {n : Int} (hr : r ∈ rows ++ new) (hn : r.logId? = some n) : r ∈ rows := by
    rcases List.mem_append.mp hr with hr | hr
    · exact hr
    · exact absurd ((none hr).symm.trans hn) nofun
  refine ⟨newest, passed, fun r hr type => ?_, fun r hr n hn => reached r (old hr hn) n hn, ?_,
    fun r hr n hn => beyond r (old hr hn) n hn⟩
  · rcases List.mem_append.mp hr with hr | hr
    · exact known r hr type
    · rw [velocity r hr] at type
      cases type
  · refine List.pairwise_append.mpr ⟨ascending, ?_, fun r _ s hs m n _ hn => ?_⟩
    · refine List.Pairwise.imp_of_mem (R := fun _ _ => True) (fun hr _ _ m n hm => ?_)
        (List.pairwise_of_forall fun _ _ => trivial)
      exact absurd ((none hr).symm.trans hm) nofun
    · exact absurd ((none hs).symm.trans hn) nofun

/-- A trigger on a record that the cursor has not seen, to which the cursor moves. -/
theorem append_match (h : SeenInvariant past logs i a rows) {a' : Alert} {r : History} {n : Int}
    (hr : r.logId? = some n) (above : ∀ m, a.cursor.Sees m → m < n)
    (moved : a'.cursor.lastSeen = some n)
    (newest : ∃ newest, logs.maxId = some newest ∧ n ≤ newest) :
    SeenInvariant past logs i a' (rows ++ [r]) := by
  have sees {m : Int} (hm : a.cursor.Sees m) : a'.cursor.Sees m :=
    ⟨n, moved, Int.le_of_lt (above m hm)⟩
  refine ⟨fun m hm => ?_, fun step hs m hm => sees (h.passed step hs m hm), fun s hs type => ?_,
    fun s hs m hm => ?_, ?_, fun s hs m hm step hstep out k hk => ?_⟩
  · obtain rfl := Option.some.inj (moved.symm.trans hm)
    exact newest
  · rcases List.mem_append.mp hs with hs | hs
    · exact h.known s hs type
    · exact ⟨n, List.mem_singleton.mp hs ▸ hr⟩
  · rcases List.mem_append.mp hs with hs | hs
    · exact sees (h.reached s hs m hm)
    · obtain rfl := List.mem_singleton.mp hs
      obtain rfl := Option.some.inj (hr.symm.trans hm)
      exact ⟨n, moved, Int.le_refl n⟩
  · refine List.pairwise_append.mpr ⟨h.ascending, List.pairwise_singleton .., ?_⟩
    intro s hs s' hs' m m' hm hm'
    obtain rfl := List.mem_singleton.mp hs'
    obtain rfl := Option.some.inj (hr.symm.trans hm')
    exact above m (h.reached s hs m hm)
  · rcases List.mem_append.mp hs with hs | hs
    · exact h.beyond s hs m hm step hstep out k hk
    · obtain rfl := List.mem_singleton.mp hs
      obtain rfl := Option.some.inj (hr.symm.trans hm)
      exact above k (h.passed step hstep k hk)

/-- A verdict keeps the invariant. -/
theorem judged {w : World} {b : AlertBook} {previewChars : Int} {notifier : Notifier} {o : Outcome}
    (hlogs : w.logs.Sound) (stored : w.book.alerts.get? i = some a)
    (h : SeenInvariant past w.logs i a (w.book.rows i))
    (judged : Evaluator.Judged previewChars notifier w b i (w.book.load a) o) :
    ∃ a', b.alerts.get? i = some a' ∧ SeenInvariant past w.logs i a' (b.rows i) := by
  obtain ⟨e, row, verdict, -, halert, hrows⟩ := judged
  rw [stored] at halert
  refine ⟨_, halert, ?_⟩
  rw [hrows]
  rcases verdict.sees hlogs with ⟨still, velocity⟩ | ⟨x, hx, above, moved, new⟩
  · exact (h.congr (Cursor.lastSeen_advance_none a.cursor still)).append_velocity (velocity row i)
  · have unseen (m : Int) (hm : a.cursor.Sees m) : m < x.id := by
      obtain ⟨m', hm', le⟩ := hm
      rw [show (w.book.load a).cursor.lastSeen = some m' from hm'] at above
      exact Int.lt_of_le_of_lt le above
    have moved' : (a.cursor.advance e.update).lastSeen = some x.id :=
      Cursor.lastSeen_advance_of_le moved fun m hm =>
        Int.le_of_lt (unseen m ⟨m, hm, Int.le_refl m⟩)
    have newest := hlogs.le_maxId hx
    rcases new with none | matched
    · rw [none, List.append_nil]
      refine h.forward (fun m hm => ?_) fun m hm => ?_
      · exact ⟨x.id, moved', Int.le_of_lt (unseen m ⟨m, hm, Int.le_refl m⟩)⟩
      · obtain rfl := Option.some.inj (moved'.symm.trans hm)
        exact newest
    · obtain ⟨r, hnew, hr⟩ := matched row i
      rw [hnew]
      exact h.append_match hr unseen moved' newest

/-- The administration keeps the invariant: a new baseline is the newest record. -/
theorem administered {b b' : AlertBook} (hb : b.Sound)
    (fate : Fate logs.maxId (b.alerts.get? i) (b'.alerts.get? i) (b.rows i) (b'.rows i))
    (bounded : ∀ step ∈ past, ∀ n, step.PassesSeen i n →
      ∃ newest, logs.maxId = some newest ∧ n ≤ newest)
    (h : ∀ a, b.alerts.get? i = some a → SeenInvariant past logs i a (b.rows i)) {a : Alert}
    (stored : b'.alerts.get? i = some a) : SeenInvariant past logs i a (b'.rows i) := by
  cases fate with
  | kept alert rows =>
    rw [rows]
    exact h a (alert ▸ stored)
  | created a' fresh alert valid cursor rows =>
    obtain rfl := Option.some.inj (alert.symm.trans stored)
    have seen : a'.cursor.lastSeen = logs.maxId := by rw [cursor]
    rw [rows, hb.rows_nil fresh]
    refine ⟨fun m hm => ⟨m, seen ▸ hm, Int.le_refl m⟩, fun step hs n hn => ?_, nofun, nofun,
      List.Pairwise.nil, nofun⟩
    obtain ⟨newest, hnewest, le⟩ := bounded step hs n hn
    exact ⟨newest, seen.trans hnewest, le⟩
  | edited old a' before alert valid cursor rows =>
    obtain rfl := Option.some.inj (alert.symm.trans stored)
    rw [rows]
    exact (h old before).congr (congrArg Cursor.lastSeen cursor)
  | disabled old a' before alert settings cursor rows =>
    obtain rfl := Option.some.inj (alert.symm.trans stored)
    rw [rows]
    exact (h old before).congr (congrArg Cursor.lastSeen cursor)
  | enabled old a' before alert settings cursor rows =>
    obtain rfl := Option.some.inj (alert.symm.trans stored)
    have seen : a'.cursor.lastSeen = logs.maxId := by rw [cursor]
    rw [rows]
    refine (h old before).forward (fun m hm => ?_) fun m hm => ⟨m, seen ▸ hm, Int.le_refl m⟩
    obtain ⟨newest, hnewest, le⟩ := (h old before).newest m hm
    exact ⟨newest, seen.trans hnewest, le⟩
  | removed alert rows =>
    rw [alert] at stored
    cases stored

end SeenInvariant

namespace Run

variable {past : List Step} {w : World}

/-- What was passed over is not newer than the newest record. -/
theorem passes_le (run : Run past w) {step : Step} (hs : step ∈ past) {i n : Int}
    (passes : step.Passes i n) : ∃ newest, w.logs.maxId = some newest ∧ n ≤ newest := by
  induction run with
  | start clock aware => cases hs
  | @next past w run e allowed ih =>
    have le : ∃ newest, w.logs.maxId = some newest ∧ n ≤ newest := by
      rcases List.mem_append.mp hs with hs | hs
      · exact ih hs
      · obtain rfl := List.mem_singleton.mp hs
        exact passes.le_maxId run.logs_sound
    generalize hafter : World.step _ e = w'
    have change := hafter ▸ World.change run.sound allowed
    cases change with
    | logged logs grown => exact grown.le_maxId run.logs_sound le
    | clocked => exact le
    | administered => exact le
    | ticked => exact le

/-- **Every run keeps the invariant** of every alert. -/
theorem seen (run : Run past w) {i : Int} {a : Alert} (stored : w.book.alerts.get? i = some a) :
    SeenInvariant past w.logs i a (w.book.rows i) := by
  induction run generalizing a with
  | start clock aware => cases stored
  | @next past w run e allowed ih =>
    have hw := run.sound
    have hlogs := run.logs_sound
    suffices h : SeenInvariant past (w.step e).logs i a ((w.step e).book.rows i) by
      refine h.more (fun n hn => ?_) fun r hr => hr
      obtain ⟨a', ha', seen⟩ := hn.passes.sees hw hlogs allowed hn.reopens
      obtain rfl := Option.some.inj (ha'.symm.trans stored)
      exact seen
    generalize hafter : w.step e = w' at stored ⊢
    have change := hafter ▸ World.change hw allowed
    cases change with
    | logged logs grown => exact (ih stored).grow hlogs grown
    | clocked => exact ih stored
    | administered b administered =>
      exact SeenInvariant.administered hw (administered.fate i)
        (fun step hs n hn => run.passes_le hs hn.passes) (fun a => ih) stored
    | ticked previewChars notifier report b run sound ticked =>
      cases ticked i with
      | judged a₀ o before enabled reported judged =>
        obtain ⟨a', ha', h⟩ := SeenInvariant.judged hlogs before (ih before) judged
        obtain rfl := Option.some.inj (ha'.symm.trans stored)
        exact h
      | kept off reported kept =>
        obtain ⟨alert, rows⟩ := kept
        rw [rows]
        exact ih (alert ▸ stored)

end Run

end LogAlert
