import LogAlert.Notify.Dispatch
import LogAlert.Proofs.Evaluation
import LogAlert.Proofs.Interleavings

/-!
# Alerts that are evaluated together

The enabled alerts of a tick may be evaluated one after the other in any order, or by several
workers at once whose calls come in any order.  An evaluation reads nothing of the other alerts:
it asks the logs, the clock and the notifier, writes about its own alert alone, and does not look
at what the alert store answers.  So what comes of an alert depends on what the book holds of this
alert, and neither on the order nor on the other alerts.

Only the ids of the triggers tell in which order they were recorded.

## Main definitions

* `World.Alike` : two worlds are the same for an alert.
* `Evaluator.Confined` : a script that writes about one alert alone, without looking at the answers.
* `Evaluator.Mixed` : the evaluations of some alerts, with their calls in any order.
* `Evaluator.SameFor` : two ticks come to the same for an alert.

## Main results

* `Evaluator.confined_evaluateGuarded` : the evaluation of an alert is confined to it.
* `Evaluator.Confined.follow` : a confined script ends among other calls as it does alone.
* `Evaluator.Mixed.sameFor` : the order of the calls is immaterial, and so are the other alerts.
* `Evaluator.tick_keeps_alerts_apart` : the same for ticks.
-/

namespace LogAlert

/-! ### What a book holds of one alert -/

/-- A trigger without its id. -/
def History.unnumbered (r : History) : History :=
  { r with id := none }

namespace AlertBook

variable {i j : Int}

theorem get_updateCursor (b : AlertBook) (i j : Int) (u : Cursor) :
    (b.updateCursor (some j) u).1.get (some i) =
      if j = i then (b.get (some i)).map fun a => { a with cursor := a.cursor.advance u }
      else b.get (some i) := by
  have load : (b.updateCursor (some j) u).1.load = b.load := by
    rw [updateCursor]
    split <;> rfl
  rw [get, get, load, Option.bind_some, Option.bind_some, get?_updateCursor]
  by_cases same : j = i
  · rw [if_pos (beq_iff_eq.mpr same), if_pos same, same, Option.map_map, Option.map_map]
    rfl
  · rw [if_neg (mt beq_iff_eq.mp same), if_neg same]

theorem get_createHistory (b : AlertBook) (id other : Option Int) (type data notifications : Json)
    (time : Moment) :
    (b.createHistory id type data notifications time).1.get other = b.get other := by
  rw [createHistory]
  split
  · rfl
  · split <;> rfl

/-- A trigger is recorded of an alert that is there. -/
theorem unnumbered_createHistory (b : AlertBook) (i : Int) (type : AlertType)
    (data notifications : Json) (time : Moment) :
    ((b.createHistory (some i) (.str type.name) data notifications time).1.rows i).map
        History.unnumbered =
      (b.rows i).map History.unnumbered ++
        if (b.get (some i)).isSome then [⟨none, some i, type, data, notifications, time⟩]
        else [] := by
  rw [get, Option.bind_some, Option.isSome_map]
  by_cases there : (b.alerts.get? i).isSome
  · rw [rows_createHistory _ _ _ _ there, if_pos (beq_self_eq_true i), if_pos there,
      List.map_append]
    rfl
  · have absent : b.alerts.has i = false := by rwa [Table.has_eq_isSome, ← Bool.not_eq_true]
    rw [if_neg there, List.append_nil, createHistory, Option.filter_some, absent]
    rfl

theorem rows_createHistory_of_ne (b : AlertBook) (ne : j ≠ i) (type data notifications : Json)
    (time : Moment) :
    (b.createHistory (some j) type data notifications time).1.rows i = b.rows i := by
  rw [createHistory]
  split
  · rfl
  · next k hk =>
    obtain rfl : j = k := Option.some.inj (Option.filter_eq_some_iff.mp hk).1
    split
    · rfl
    · rw [rows, Table.get?_put_of_ne _ _ ne]
      rfl

end AlertBook

namespace World

/-- How a world serves a call. -/
def Serves (notifier : Notifier) (w : World) (c : Call Engine) (w' : World) : Prop :=
  answer notifier c.request w = (c.answer, w')

/-- Two worlds are the same for an alert: they have the same logs and the same time, and hold the
same of the alert, its channels and its triggers, up to the ids of these. -/
structure Alike (i : Int) (w w' : World) : Prop where
  logs : w'.logs = w.logs
  clock : w'.clock = w.clock
  alert : w'.book.get (some i) = w.book.get (some i)
  rows : (w'.book.rows i).map History.unnumbered = (w.book.rows i).map History.unnumbered

variable {i j : Int} {w w' w'' : World}

theorem Alike.refl (i : Int) (w : World) : w.Alike i w :=
  ⟨rfl, rfl, rfl, rfl⟩

theorem Alike.symm (h : w.Alike i w') : w'.Alike i w :=
  ⟨h.logs.symm, h.clock.symm, h.alert.symm, h.rows.symm⟩

theorem Alike.trans (h : w.Alike i w') (h' : w'.Alike i w'') : w.Alike i w'' :=
  ⟨h'.logs.trans h.logs, h'.clock.trans h.clock, h'.alert.trans h.alert, h'.rows.trans h.rows⟩

end World

/-! ### Requests -/

/-- The request asks the logs, the clock or the notifier. -/
def EngineRequest.Reads : EngineRequest → Prop
  | .alerts _ => False
  | .logs _ | .now | .notify .. | .evaluating _ => True

/-- The request moves the cursor of an alert or records a trigger of it. -/
def EngineRequest.Writes (i : Int) : EngineRequest → Prop
  | .alerts (.updateCursor a _) => a.id = some i
  | .alerts (.createHistory a type _ _ _) => a.id = some i ∧ ∃ t : AlertType, type = .str t.name
  | _ => False

namespace World

variable (notifier : Notifier) {i j : Int} {w w' : World} {q : EngineRequest}

theorem run_ask {α : Type} (w : World) (q : EngineRequest)
    (next : Except Failure q.Answer → Script Engine α) :
    w.run notifier (.ask q next) =
      (answer notifier q w).2.run notifier (next (answer notifier q w).1) := rfl

/-- What is read changes nothing, and is the same in worlds that are alike for an alert. -/
theorem Alike.answer_read (alike : w.Alike i w') (reads : q.Reads) :
    ∃ x, answer notifier q w = (x, w) ∧ answer notifier q w' = (x, w') := by
  cases q with
  | alerts r => exact reads.elim
  | logs r => exact ⟨_, rfl, by rw [answer, alike.logs]⟩
  | now => exact ⟨_, rfl, by rw [answer, alike.clock]⟩
  | notify a type data => exact ⟨_, rfl, rfl⟩
  | evaluating a => exact ⟨_, rfl, rfl⟩

/-- Worlds that are alike for an alert are so after a write about it. -/
theorem Alike.answer_write (alike : w.Alike i w') (writes : q.Writes i) :
    (answer notifier q w).2.Alike i (answer notifier q w').2 := by
  cases q with
  | logs | now | notify | evaluating => exact writes.elim
  | alerts r =>
    cases r with
    | updateCursor a u =>
      refine ⟨alike.logs, alike.clock, ?_, ?_⟩
      · change (w'.book.updateCursor a.id u).1.get _ = (w.book.updateCursor a.id u).1.get _
        rw [show a.id = some i from writes, AlertBook.get_updateCursor,
          AlertBook.get_updateCursor, alike.alert]
      · change ((w'.book.updateCursor a.id u).1.rows i).map _ =
          ((w.book.updateCursor a.id u).1.rows i).map _
        rw [AlertBook.rows_updateCursor, AlertBook.rows_updateCursor, alike.rows]
    | createHistory a type data notifications time =>
      obtain ⟨own, t, rfl⟩ := writes
      refine ⟨alike.logs, alike.clock, ?_, ?_⟩
      · change (w'.book.createHistory a.id _ data notifications time).1.get _ =
          (w.book.createHistory a.id _ data notifications time).1.get _
        rw [AlertBook.get_createHistory, AlertBook.get_createHistory, alike.alert]
      · change ((w'.book.createHistory a.id _ data notifications time).1.rows i).map _ =
          ((w.book.createHistory a.id _ data notifications time).1.rows i).map _
        rw [own, AlertBook.unnumbered_createHistory, AlertBook.unnumbered_createHistory,
          alike.rows, alike.alert]
    | _ => exact writes.elim

/-- A write about another alert leaves a world alike. -/
theorem alike_answer (w : World) (writes : q.Writes j) (other : j ≠ i) :
    w.Alike i (answer notifier q w).2 := by
  cases q with
  | logs | now | notify | evaluating => exact writes.elim
  | alerts r =>
    cases r with
    | updateCursor a u =>
      refine ⟨rfl, rfl, ?_, ?_⟩
      · change (w.book.updateCursor a.id u).1.get _ = _
        rw [show a.id = some j from writes, AlertBook.get_updateCursor, if_neg other]
      · change ((w.book.updateCursor a.id u).1.rows i).map _ = _
        rw [AlertBook.rows_updateCursor]
    | createHistory a type data notifications time =>
      obtain ⟨own, t, rfl⟩ := writes
      refine ⟨rfl, rfl, ?_, ?_⟩
      · exact AlertBook.get_createHistory ..
      · change ((w.book.createHistory a.id _ data notifications time).1.rows i).map _ = _
        rw [own, AlertBook.rows_createHistory_of_ne _ other]
    | _ => exact writes.elim

end World

/-! ### Confined scripts -/

namespace Evaluator

open Engine

/-- Whatever the script is answered, it writes about the alert `i` alone, and goes on in the same
way whatever a write is answered. -/
inductive Confined (i : Int) {α : Type} : Script Engine α → Prop where
  | done (result : Except Failure α) : Confined i (.done result)
  | read {q : EngineRequest} {next : Except Failure q.Answer → Script Engine α} (reads : q.Reads)
      (rest : ∀ answer, Confined i (next answer)) : Confined i (.ask q next)
  | write {q : EngineRequest} {next : Except Failure q.Answer → Script Engine α}
      (writes : q.Writes i) (same : ∀ x y, next x = next y)
      (rest : ∀ answer, Confined i (next answer)) : Confined i (.ask q next)

namespace Confined

variable {i : Int} {α β : Type}

theorem bind {script : Script Engine α} {next : α → Script Engine β} (first : Confined i script)
    (second : ∀ a, Confined i (next a)) : Confined i (script >>= next) := by
  induction first with
  | done result =>
    cases result with
    | error e => exact .done _
    | ok a => exact second a
  | read reads _ ih => exact .read reads ih
  | write writes same _ ih =>
    exact .write writes (fun x y => congrArg (Script.bind · next) (same x y)) ih

theorem attempt {script : Script Engine α} (h : Confined i script) :
    Confined i script.attempt := by
  induction h with
  | done result => exact .done _
  | read reads _ ih => exact .read reads ih
  | write writes same _ ih => exact .write writes (fun x y => congrArg _ (same x y)) ih

theorem request {q : EngineRequest} (reads : q.Reads) :
    Confined i (Script.request (I := Engine) q) :=
  .read reads fun _ => .done _

/-- The calls of a confined script are reads, or writes about its alert. -/
theorem of_makes {script : Script Engine α} (h : Confined i script) {calls : List (Call Engine)}
    {result : Except Failure α} (made : script.Makes calls result) :
    ∀ c ∈ calls, c.request.Reads ∨ c.request.Writes i := by
  induction h generalizing calls with
  | done ended =>
    rw [(Script.makes_done.mp made).1]
    exact List.forall_mem_nil _
  | read reads _ ih =>
    obtain ⟨answer, rest, rfl, hrest⟩ := Script.makes_ask.mp made
    exact List.forall_mem_cons.mpr ⟨.inl reads, ih answer hrest⟩
  | write writes _ _ ih =>
    obtain ⟨answer, rest, rfl, hrest⟩ := Script.makes_ask.mp made
    exact List.forall_mem_cons.mpr ⟨.inr writes, ih answer hrest⟩

/-- **A confined script ends among other calls as it does alone**, in any world that is alike for
its alert, if the other calls are reads or writes about other alerts. -/
theorem follow {P : Type} [DecidableEq P] {notifier : Notifier} {script : Script Engine α}
    (h : Confined i script) {p : P} {deeds : List (Deed P Engine)} {w w₁ u : World}
    (served : Served (World.Serves notifier) w deeds w₁) {result : Except Failure α}
    (made : script.Makes (callsOf p deeds) result)
    (others : ∀ d ∈ deeds, d.party ≠ p →
      d.call.request.Reads ∨ ∃ j, j ≠ i ∧ d.call.request.Writes j)
    (alike : w.Alike i u) :
    ∃ u₁, u.run notifier script = (result, u₁) ∧ w₁.Alike i u₁ := by
  induction served generalizing script u with
  | nil w =>
    cases h with
    | done ended =>
      obtain ⟨-, rfl⟩ := Script.makes_done.mp made
      exact ⟨u, rfl, alike⟩
    | read => cases made
    | write => cases made
  | @cons w w' w₁ d deeds first rest ih =>
    obtain ⟨other, rest_others⟩ := List.forall_mem_cons.mp others
    obtain ⟨q, ⟨r, answer⟩⟩ := d
    by_cases own : q = p
    · subst own
      rw [callsOf_cons_self] at made
      cases made with
      | ask made =>
        cases h with
        | read reads confined =>
          obtain ⟨x, hw, hu⟩ := alike.answer_read notifier reads
          obtain ⟨rfl, rfl⟩ := Prod.mk.inj (hw.symm.trans first)
          rw [World.run_ask, hu]
          exact ih (confined x) made rest_others alike
        | write writes same confined =>
          have alike' := alike.answer_write notifier writes
          rw [show World.answer notifier r w = (answer, w') from first] at alike'
          rw [World.run_ask, same _ answer]
          exact ih (confined answer) made rest_others alike'
    · rw [callsOf_cons_of_ne own] at made
      have last : (World.answer notifier r w).2 = w' := congrArg Prod.snd first
      refine ih h made rest_others (.trans (.symm ?_) alike)
      rcases other own with reads | ⟨j, ne, writes⟩
      · obtain ⟨x, hw, -⟩ := (World.Alike.refl i w).answer_read notifier reads
        rw [← last, hw]
        exact .refl i w
      · exact last ▸ w.alike_answer notifier writes ne

end Confined

/-! ### Evaluations -/

section Evaluations

variable {i : Int} {a : Alert}

theorem confined_writeCursor (own : a.id = some i) (u : Cursor) : Confined i (writeCursor a u) :=
  .write (q := .alerts (.updateCursor a u)) own (fun _ _ => rfl) fun _ => .done _

theorem confined_trigger (own : a.id = some i) (type : AlertType) (data : Json) (u : Cursor)
    (now : Moment) : Confined i (trigger a type data u now) :=
  (Confined.request (q := .notify a type data) trivial).bind fun notifications =>
    .write (q := .alerts (.createHistory a (.str type.name) data notifications now))
      ⟨own, type, rfl⟩ (fun _ _ => rfl) fun _ => confined_writeCursor own u

theorem confined_moved (own : a.id = some i) (u : Cursor) (o : Outcome) :
    Confined i (do writeCursor a u; pure o) :=
  (confined_writeCursor own u).bind fun _ => .done _

theorem confined_triggered (own : a.id = some i) (type : AlertType) (data : Json) (u : Cursor)
    (now : Moment) (o : Outcome) : Confined i (do trigger a type data u now; pure o) :=
  (confined_trigger own type data u now).bind fun _ => .done _

theorem confined_search (r : LogRequest) {α : Type} {next : r.Answer → Script Engine α}
    (rest : ∀ x, Confined i (next x)) : Confined i (logs r >>= next) :=
  (Confined.request (q := .logs r) trivial).bind rest

theorem confined_evaluateMatch (previewChars : Int) (own : a.id = some i) (now : Moment)
    (phase : Phase) : Confined i (evaluateMatch previewChars a now phase) := by
  refine (Confined.done (tokensOf a now)).bind fun tokens => ?_
  split
  · split
    · exact confined_moved own _ _
    · refine confined_search _ fun found => ?_
      cases found with
      | none => exact confined_moved own _ _
      | some r => exact confined_triggered own ..
  · split
    · exact .done _
    · refine confined_search _ fun found => ?_
      cases found with
      | none => exact .done _
      | some r => exact confined_moved own _ _

theorem confined_evaluateVelocity (own : a.id = some i) (now : Moment) :
    Confined i (evaluateVelocity a now) := by
  unfold evaluateVelocity
  dsimp only
  split
  · exact .done _
  · refine (Confined.done (tokensOf a now)).bind fun tokens => ?_
    refine (Confined.done (windowStart now a.settings.window)).bind fun cutoff => ?_
    have counted (count : Nat) : Confined i (do
        if ← .ofExcept (a.settings.threshold.isAbove "int" (.ofInt count)) then
          writeCursor a { Cursor.empty with lastChecked := some now }
          pure Outcome.checked
        else
          trigger a .velocity (velocityData count a.settings.threshold a.settings.window)
            ⟨none, some now, some now⟩ now
          pure Outcome.triggered) := by
      refine (Confined.done (a.settings.threshold.isAbove "int" (.ofInt count))).bind fun few => ?_
      split
      · exact confined_moved own _ _
      · exact confined_triggered own ..
    split
    · exact counted 0
    · exact confined_search _ counted

/-- **The evaluation of an alert is confined to it.** -/
theorem confined_evaluateGuarded (previewChars : Int) (own : a.id = some i) :
    Confined i (evaluateGuarded previewChars a) := by
  have evaluated : Confined i (evaluate previewChars a) := by
    refine (Confined.request (q := .evaluating a) trivial).bind fun _ => ?_
    refine (Confined.request (q := .now) trivial).bind fun now => ?_
    refine (Confined.done (Phase.classify now _ _)).bind fun phase => ?_
    refine (Confined.done (AlertType.ofJson a.settings.type)).bind fun type => ?_
    cases type with
    | anyMatch => exact confined_evaluateMatch previewChars own now phase
    | velocity =>
      dsimp only
      split
      · exact confined_evaluateVelocity own now
      · exact .done _
  refine evaluated.attempt.bind fun result => ?_
  cases result with
  | ok outcome => exact .done _
  | error e => exact .done _

end Evaluations

/-! ### Evaluations among each other -/

/-- The evaluations of some alerts come to these outcomes, and lead from one world to another.  The
calls of one evaluation come in their order, and those of different ones in any order. -/
structure Mixed (previewChars : Int) (notifier : Notifier) (as : List Alert) (w : World)
    (deeds : List (Deed (Option Int) Engine)) (os : List Outcome) (w' : World) : Prop where
  served : Served (World.Serves notifier) w deeds w'
  parties : ∀ d ∈ deeds, d.party ∈ as.map Alert.id
  length : os.length = as.length
  made : ∀ a o, (a, o) ∈ as.zip os →
    (evaluateGuarded previewChars a).Makes (callsOf a.id deeds) (.ok o)

/-- Two ticks come to the same for an alert: it has the same outcome, and the worlds after them are
the same for it. -/
structure SameFor (i : Int) (outcomes : Table (Option Int) Outcome) (w : World)
    (outcomes' : Table (Option Int) Outcome) (w' : World) : Prop where
  outcome : outcomes'.get? (some i) = outcomes.get? (some i)
  alike : w.Alike i w'

/-- The enabled alerts are those that are read as enabled under their ids. -/
theorem mem_listEnabled_iff {b : AlertBook} (hb : b.Keyed) {i : Int} {a : Alert} :
    a ∈ b.listEnabled ∧ a.id = some i ↔
      b.get (some i) = some a ∧ a.settings.enabled.isTruthy := by
  rw [mem_listEnabled hb, AlertBook.get, Option.bind_some, Option.map_eq_some_iff]
  constructor
  · rintro ⟨⟨j, a₀, stored, enabled, rfl⟩, id⟩
    obtain rfl : j = i := Option.some.inj ((hb.id_eq stored).symm.trans id)
    exact ⟨⟨a₀, stored, rfl⟩, enabled⟩
  · rintro ⟨⟨a₀, stored, rfl⟩, enabled⟩
    exact ⟨⟨i, a₀, stored, enabled, rfl⟩, (hb.id_eq stored :)⟩

namespace Mixed

variable {previewChars : Int} {notifier : Notifier} {i : Int} {as as' : List Alert}
  {w w' w₁ w₁' u : World} {deeds deeds' : List (Deed (Option Int) Engine)}
  {os os' : List Outcome}

/-- Each of the alerts has an outcome. -/
theorem keys_eq (h : Mixed previewChars notifier as w deeds os w₁) :
    Table.keys ((as.map Alert.id).zip os) = as.map Alert.id :=
  Table.keys_zip (by rw [List.length_map, h.length])

/-- An outcome is that of an evaluation. -/
theorem exists_of_get? {id : Option Int} {o : Outcome}
    (found : Table.get? ((as.map Alert.id).zip os) id = some o) :
    ∃ a, (a, o) ∈ as.zip os ∧ a.id = id := by
  have mem := Table.mem_of_get? found
  rw [List.zip_map_left, List.mem_map] at mem
  obtain ⟨⟨a, o'⟩, mem, heq⟩ := mem
  obtain ⟨rfl, rfl⟩ := Prod.mk.inj heq
  exact ⟨a, mem, rfl⟩

/-- Every call is a read, or a write about the alert whose evaluation it belongs to. -/
theorem confined (h : Mixed previewChars notifier as w deeds os w₁) (hb : w.book.Keyed)
    (perm : as.Perm w.book.listEnabled) {d : Deed (Option Int) Engine} (hd : d ∈ deeds) :
    ∃ j, d.party = some j ∧ (d.call.request.Reads ∨ d.call.request.Writes j) := by
  have key := h.parties d hd
  rw [← h.keys_eq, Table.mem_keys, Option.isSome_iff_exists] at key
  obtain ⟨o, found⟩ := key
  obtain ⟨a, mem, id⟩ := exists_of_get? found
  obtain ⟨j, a₀, stored, -, rfl⟩ :=
    (mem_listEnabled hb).mp (perm.mem_iff.mp (List.of_mem_zip mem).1)
  have own : (w.book.load a₀).id = some j := (hb.id_eq stored :)
  have call : d.call ∈ callsOf (w.book.load a₀).id deeds := mem_callsOf.mpr (id ▸ hd)
  exact ⟨j, id.symm.trans own,
    (confined_evaluateGuarded previewChars own).of_makes (h.made _ o mem) d.call call⟩

/-- A script that makes the calls of an alert ends among the others as it does alone. -/
theorem follow (h : Mixed previewChars notifier as w deeds os w₁) (hb : w.book.Keyed)
    (perm : as.Perm w.book.listEnabled) {α : Type} {script : Script Engine α}
    (confined : Confined i script) {result : Except Failure α}
    (made : script.Makes (callsOf (some i) deeds) result) (alike : w.Alike i u) :
    ∃ u₁, u.run notifier script = (result, u₁) ∧ w₁.Alike i u₁ := by
  refine confined.follow h.served made (fun d hd other => ?_) alike
  obtain ⟨j, party, call⟩ := h.confined hb perm hd
  exact call.imp_right fun writes => ⟨j, fun same => other (same ▸ party), writes⟩

/-- What becomes of an alert: one that is enabled ends as if it were evaluated alone, in any world
that is alike for it, and any other is left as it is. -/
theorem fate (h : Mixed previewChars notifier as w deeds os w₁) (hb : w.book.Keyed)
    (perm : as.Perm w.book.listEnabled) (alike : w.Alike i u) :
    (∃ a o u₁, w.book.get (some i) = some a ∧ a.settings.enabled.isTruthy ∧
        Table.get? ((as.map Alert.id).zip os) (some i) = some o ∧
        u.run notifier (evaluateGuarded previewChars a) = (.ok o, u₁) ∧ w₁.Alike i u₁) ∨
      (∀ a, w.book.get (some i) = some a → ¬a.settings.enabled.isTruthy) ∧
        Table.get? ((as.map Alert.id).zip os) (some i) = none ∧ w₁.Alike i u := by
  cases found : Table.get? ((as.map Alert.id).zip os) (some i) with
  | some o =>
    obtain ⟨a, mem, id⟩ := exists_of_get? found
    obtain ⟨read, enabled⟩ := (mem_listEnabled_iff hb).mp
      ⟨perm.mem_iff.mp (List.of_mem_zip mem).1, id⟩
    obtain ⟨u₁, hrun, hlast⟩ := h.follow hb perm (confined_evaluateGuarded previewChars id)
      (id ▸ h.made a o mem) alike
    exact .inl ⟨a, o, u₁, read, enabled, rfl, hrun, hlast⟩
  | none =>
    have absent : some i ∉ as.map Alert.id := h.keys_eq ▸ Table.get?_eq_none.mp found
    refine .inr ⟨fun a read enabled => absent ?_, rfl, ?_⟩
    · obtain ⟨mem, id⟩ := (mem_listEnabled_iff hb).mpr ⟨read, enabled⟩
      exact id ▸ List.mem_map_of_mem (perm.mem_iff.mpr mem)
    · -- no call is one of this alert
      have made : (pure () : Script Engine Unit).Makes (callsOf (some i) deeds) (.ok ()) :=
        Script.makes_pure.mpr
          ⟨callsOf_eq_nil fun d hd same => absurd (h.parties d hd) (same ▸ absent), rfl⟩
      obtain ⟨u₁, hrun, hlast⟩ := h.follow hb perm (.done _) made alike
      exact (Prod.mk.inj hrun).2 ▸ hlast

/-- **The order of the calls is immaterial, and so are the other alerts.** -/
theorem sameFor (h : Mixed previewChars notifier as w deeds os w₁)
    (h' : Mixed previewChars notifier as' w' deeds' os' w₁') (hb : w.book.Keyed)
    (hb' : w'.book.Keyed) (perm : as.Perm w.book.listEnabled)
    (perm' : as'.Perm w'.book.listEnabled) (alike : w.Alike i w') :
    SameFor i ((as.map Alert.id).zip os) w₁ ((as'.map Alert.id).zip os') w₁' := by
  rcases h.fate hb perm (.refl i w) with
    ⟨a, o, u, read, enabled, found, hrun, hlast⟩ | ⟨off, found, hlast⟩ <;>
  rcases h'.fate hb' perm' alike.symm with
    ⟨a', o', u', read', enabled', found', hrun', hlast'⟩ | ⟨off', found', hlast'⟩
  · obtain rfl := Option.some.inj ((read.symm.trans alike.alert.symm).trans read')
    obtain ⟨⟨⟩, rfl⟩ := Prod.mk.inj (hrun.symm.trans hrun')
    exact ⟨found'.trans found.symm, hlast.trans hlast'.symm⟩
  · exact absurd enabled (off' a (alike.alert.trans read))
  · exact absurd enabled' (off a' (alike.alert.symm.trans read'))
  · exact ⟨found'.trans found.symm, hlast.trans hlast'.symm⟩

end Mixed

/-! ### Ticks -/

variable {w w' : World} {notifier : Notifier} {previewChars : Int}

/-- The enabled alerts can be evaluated one after the other in any order. -/
theorem exists_mixed (notifier : Notifier) (previewChars : Int) (hb : w.book.Keyed)
    {as : List Alert} (perm : as.Perm w.book.listEnabled) :
    ∃ os w₁ deeds,
      w.run notifier (Script.mapList (evaluateGuarded previewChars) as) = (.ok os, w₁) ∧
        Mixed previewChars notifier as w deeds os w₁ := by
  have nodup : (as.map Alert.id).Nodup :=
    (perm.map Alert.id).nodup_iff.mpr (nodup_listEnabled hb)
  obtain ⟨os, b, hrun, -, length, -, -⟩ := run_evaluations notifier previewChars as
    (fun a ha => by
      obtain ⟨i, a₀, hget, -, rfl⟩ := (mem_listEnabled hb).mp (perm.mem_iff.mp ha)
      exact ⟨i, (hb.id_eq hget :), by rw [hget]; rfl⟩) nodup
  have serves_answer (q : EngineRequest) (t : World) :
      World.Serves notifier t ⟨q, (World.answer notifier q t).1⟩ (World.answer notifier q t).2 := rfl
  obtain ⟨deeds, served, parties, made⟩ :=
    exists_served_mapList (fun w => w) serves_answer Alert.id nodup hrun
  exact ⟨os, _, deeds, hrun, served, parties, length, made⟩

/-- A tick is a mixture of the evaluations of the enabled alerts. -/
theorem exists_tick (notifier : Notifier) (previewChars : Int) (hb : w.book.Keyed) :
    ∃ os w₁ deeds, w.run notifier (tick previewChars) =
        (.ok ⟨w.clock, (w.book.listEnabled.map Alert.id).zip os, none⟩, w₁) ∧
      Mixed previewChars notifier w.book.listEnabled w deeds os w₁ := by
  obtain ⟨os, w₁, deeds, hrun, mixed⟩ := exists_mixed notifier previewChars hb (.refl _)
  exact ⟨os, w₁, deeds, run_tick_eq hb hrun mixed.length, mixed⟩

/-- **Alerts of one tick do not influence each other.**  On every book that requests lead to, and
with a notifier that depends on the alert, the type and the data alone, a tick gives an alert the
same outcome, and leaves the same of it, up to the ids of its triggers,

* if the enabled alerts are evaluated in another order,
* if their calls come in any order, and
* in another world that is the same for this alert, whatever the other alerts are. -/
theorem tick_keeps_alerts_apart (notifier : Notifier) (previewChars : Int)
    (reachable : w.book.Reachable) :
    ∃ report w₁, w.run notifier (tick previewChars) = (.ok report, w₁) ∧
      (∀ {as}, as.Perm w.book.listEnabled → ∃ os w₂,
        w.run notifier (Script.mapList (evaluateGuarded previewChars) as) = (.ok os, w₂) ∧
          ∀ i, SameFor i report.outcomes w₁ ((as.map Alert.id).zip os) w₂) ∧
      (∀ {deeds os w₂}, Mixed previewChars notifier w.book.listEnabled w deeds os w₂ →
        ∀ i, SameFor i report.outcomes w₁ ((w.book.listEnabled.map Alert.id).zip os) w₂) ∧
      ∀ {w' i}, w'.book.Reachable → w.Alike i w' → ∃ report' w₁',
        w'.run notifier (tick previewChars) = (.ok report', w₁') ∧
          SameFor i report.outcomes w₁ report'.outcomes w₁' := by
  have hb := reachable.keyed
  obtain ⟨os, w₁, deeds, hrun, mixed⟩ := exists_tick notifier previewChars hb
  refine ⟨_, w₁, hrun, fun {as} perm => ?_, fun {deeds' os' w₂} mixed' i => ?_,
    fun {w' i} reachable' alike => ?_⟩
  · obtain ⟨os', w₂, deeds', hrun', mixed'⟩ := exists_mixed notifier previewChars hb perm
    exact ⟨os', w₂, hrun', fun i => mixed.sameFor mixed' hb hb (.refl _) perm (.refl i w)⟩
  · exact mixed.sameFor mixed' hb hb (.refl _) (.refl _) (.refl i w)
  · have hb' := reachable'.keyed
    obtain ⟨os', w₁', deeds', hrun', mixed'⟩ := exists_tick notifier previewChars hb'
    exact ⟨_, w₁', hrun', mixed.sameFor mixed' hb hb' (.refl _) (.refl _) alike⟩

end Evaluator

/-- The notifier that has the channels of an alert told by senders.  What a sender does depends on
the channel, the alert, the type and the data alone. -/
def Dispatch.notifier (senders : DeliveryRequest → Except Failure Delivery) : Notifier :=
  fun a type data =>
    ((sendAlert a (.str type.name) data).run (I := Deliveries) (fun r s => (senders r, s)) ()).1.map
      fun notifications => .arr (notifications.map Notification.toJson)

namespace Evaluator.Sample

open LogAlert.Sample (noon alert)

/-- A channel without an id. -/
def channel : Channel where
  type := .str "slack"
  name := .str "operators"
  config := .obj []
  enabled := .bool true
  ownerId := .null
  id := none

/-- An alert on many records that names no window, so that its evaluation fails. -/
def unset : Alert :=
  { alert with settings := { alert.settings with type := .str "velocity" } }

/-- The book after requests. -/
def bookAfter (requests : List AlertRequest) : AlertBook :=
  requests.foldl (fun b r => (b.answer r).2) .empty

/-- The worlds have one record with the word that the alerts look for. -/
def worldAfter (requests : List AlertRequest) : World where
  book := bookAfter requests
  logs := (LogStore.empty.append "app" "an error" "error" noon []).1
  clock := noon

/-- Two alerts that tell the same channel, and one that fails. -/
def world : World :=
  worldAfter [.saveChannel channel, .save alert false, .setChannels (some 1) [1],
    .save alert false, .setChannels (some 2) [1], .save unset false]

/-- The first alert among others that both fail, and of which one has triggered before. -/
def otherWorld : World :=
  worldAfter [.saveChannel channel, .save alert false, .setChannels (some 1) [1],
    .save unset false, .createHistory { unset with id := some 2 } (.str "velocity") .null .null noon,
    .save unset false]

/-- The sender fails for the second alert. -/
def senders (r : DeliveryRequest) : Except Failure Delivery :=
  if r.alert.id = some 2 then .error (.of (.other "RuntimeError") "no route") else .ok .delivered

theorem reachable_bookAfter (requests : List AlertRequest) : (bookAfter requests).Reachable := by
  have from_reachable {b : AlertBook} (hb : b.Reachable) :
      (requests.foldl (fun b r => (b.answer r).2) b).Reachable := by
    induction requests generalizing b with
    | nil => exact hb
    | cons r rs ih => exact ih (hb.answer r)
  exact from_reachable .empty

theorem alike : world.Alike 1 otherWorld :=
  ⟨rfl, rfl, rfl, rfl⟩

end Evaluator.Sample

open Evaluator.Sample in
/-- Two alerts trigger and a third one fails; in the reverse order, and among other alerts that fail
as well, the same comes of each.  The triggers have other ids then. -/
theorem Evaluator.tick_keeps_alerts_apart_of_sample :
    ∃ report w₁ os w₂ report' w₁',
      world.run (Dispatch.notifier senders) (tick 200) = (.ok report, w₁) ∧
      world.run (Dispatch.notifier senders)
        (Script.mapList (evaluateGuarded 200) world.book.listEnabled.reverse) = (.ok os, w₂) ∧
      otherWorld.run (Dispatch.notifier senders) (tick 200) = (.ok report', w₁') ∧
      report.outcomes = [(some 1, .triggered), (some 2, .triggered), (some 3, .failed)] ∧
      (∀ i, SameFor i report.outcomes w₁
        ((world.book.listEnabled.reverse.map Alert.id).zip os) w₂) ∧
      SameFor 1 report.outcomes w₁ report'.outcomes w₁' ∧
      (w₁.book.rows 1).map (·.id) = [some 1] ∧ (w₂.book.rows 1).map (·.id) = [some 2] := by
  obtain ⟨report, w₁, hrun, ordered, -, other⟩ := tick_keeps_alerts_apart
    (w := world) (Dispatch.notifier senders) 200 (reachable_bookAfter _)
  obtain ⟨os, w₂, hrun', same⟩ := ordered (List.reverse_perm _)
  have reachable' : otherWorld.book.Reachable := reachable_bookAfter _
  obtain ⟨report', w₁', hrun'', same'⟩ := other reachable' alike
  have ticked : (world.run (Dispatch.notifier senders) (tick 200)).1.toOption.map (·.outcomes) =
        some [(some 1, .triggered), (some 2, .triggered), (some 3, .failed)] ∧
      ((world.run (Dispatch.notifier senders) (tick 200)).2.book.rows 1).map (·.id) =
        [some 1] := by
    decide +kernel
  have reversed : ((world.run (Dispatch.notifier senders)
      (Script.mapList (evaluateGuarded 200) world.book.listEnabled.reverse)).2.book.rows 1).map
        (·.id) = [some 2] := by
    decide +kernel
  rw [hrun] at ticked
  rw [hrun'] at reversed
  exact ⟨report, w₁, os, w₂, report', w₁', hrun, hrun', hrun'', Option.some.inj ticked.1, same,
    same', ticked.2, reversed⟩

end LogAlert
