import LogAlert.Proofs.Courses
import LogAlert.Proofs.Dialogues

/-!
# Whose ids are in use

A new alert is given the next id, which no other new alert was given before.  An alert is there
since it was created, until it is removed.  There is one other way in which an id comes into use: an
edit of an alert that is not there stores it under the id that it names.  If this is an id that is
still to be given, the new alert takes the place of the one that is there, with its links and
triggers.

## Main definitions

* `Step.Creates`, `Step.Inserts`, `Step.Removes` : the steps after which an id is or is not in use.
* `Step.Since` : something was done and not undone since.

## Main results

* `Step.isSome_after_iff` : whether an alert is there after a step.
* `Course.isSome_iff` : whether an alert is there after a course.
* `Course.identity` : which alerts are there, and which id a new one is given.
-/

namespace LogAlert

namespace Step

/-- The step creates an alert and answers with the id `i`. -/
def Creates (s : Step) (i : Int) : Prop :=
  ∃ a channelIds created, s.event = .createAlert a channelIds ∧
    (s.before.run World.silent (Service.createAlert a channelIds)).1 = .ok created ∧
    created.id = some i

/-- The step edits the alert `i`, which is not there, and its settings are valid. -/
def Inserts (s : Step) (i : Int) : Prop :=
  ∃ a channelIds, s.event = .updateAlert a channelIds ∧ a.id = some i ∧ a.validate = .ok () ∧
    s.before.book.alerts.get? i = none

/-- The step removes the alert `i` and answers that it was there. -/
def Removes (s : Step) (i : Int) : Prop :=
  ∃ a, s.event = .deleteAlert a ∧ a.id = some i ∧
    (s.before.run World.silent (Service.deleteAlert a)).1 = .ok true

/-- One of the steps satisfies `P`, and none after it satisfies `Q`. -/
def Since (P Q : Step → Prop) (past : List Step) : Prop :=
  ∃ before s after, past = before ++ s :: after ∧ P s ∧ ∀ s' ∈ after, ¬Q s'

variable {P P' Q : Step → Prop} {past : List Step} {s : Step} {i : Int}

theorem not_since_nil : ¬Since P Q [] :=
  LogAlert.not_since_nil

/-- After one more step: the step satisfies `P`, or an earlier one does and the step not `Q`. -/
theorem since_append_singleton : Since P Q (past ++ [s]) ↔ P s ∨ Since P Q past ∧ ¬Q s :=
  LogAlert.since_append_singleton

theorem Since.imp (h : Since P Q past) (imp : ∀ s ∈ past, P s → P' s) : Since P' Q past :=
  LogAlert.Since.imp h imp

end Step

namespace World

variable {w : World} {i : Int}

/-! ### New alerts -/

/-- A new alert that is valid and linkable is stored under the next id and answered with. -/
theorem exists_created {a : Alert} {channelIds : List Int} (valid : a.validate = .ok ())
    (linkable : w.book.checkLinks a.settings.ownerId channelIds = .ok ()) :
    ∃ created, w.run silent (Service.createAlert a channelIds) =
        (.ok created, { w with book := w.book.create w.logs.maxId a channelIds }) ∧
      created.id = some w.book.nextAlert := by
  rw [Service.run_createAlert, valid, linkable]
  refine ⟨_, rfl, ?_⟩
  change ((AlertBook.get (w.book.create w.logs.maxId a channelIds)
    (some w.book.nextAlert)).getD _).id = _
  rw [AlertBook.get, Option.bind_some, AlertBook.get?_create, if_pos (beq_self_eq_true _)]
  rfl

/-- A new alert that is answered with was linkable, and is stored under the next id. -/
theorem created_eq {a created : Alert} {channelIds : List Int}
    (answer : (w.run silent (Service.createAlert a channelIds)).1 = .ok created) :
    w.book.checkLinks a.settings.ownerId channelIds = .ok () ∧
      created.id = some w.book.nextAlert ∧
      (w.step (.createAlert a channelIds)).book = w.book.create w.logs.maxId a channelIds := by
  cases valid : a.validate with
  | error e =>
    rw [Service.run_createAlert, valid] at answer
    cases answer
  | ok _ =>
    cases linkable : w.book.checkLinks a.settings.ownerId channelIds with
    | error e =>
      rw [Service.run_createAlert, valid, linkable] at answer
      cases answer
    | ok _ =>
      obtain ⟨created', run, id⟩ := exists_created valid linkable
      rw [run] at answer
      obtain rfl := Except.ok.inj answer
      exact ⟨rfl, id, by rw [step, run]⟩

end World

/-! ### One step -/

namespace Step

variable {s : Step} {i : Int}

theorem Creates.after (h : s.Creates i) :
    i = s.before.book.nextAlert ∧ s.after.book.nextAlert = i + 1 ∧
      (s.after.book.alerts.get? i).isSome := by
  obtain ⟨w, e⟩ := s
  obtain ⟨a, channelIds, created, rfl, answer, id⟩ := h
  obtain ⟨-, next, stored⟩ := World.created_eq answer
  obtain rfl := Option.some.inj (next.symm.trans id)
  rw [Step.after, stored, AlertBook.get?_create, if_pos (beq_self_eq_true _)]
  exact ⟨rfl, AlertBook.nextAlert_create .., rfl⟩

theorem Inserts.after (h : s.Inserts i) : (s.after.book.alerts.get? i).isSome := by
  obtain ⟨w, e⟩ := s
  obtain ⟨a, channelIds, rfl, id, valid, -⟩ := h
  have saved : ((w.book.save a false).1.alerts.get? i).isSome := by
    rw [AlertBook.save_old id, AlertBook.get?_store, if_pos (beq_self_eq_true i)]
    rfl
  rw [Step.after, World.step, Service.run_updateAlert id, valid]
  cases channelIds with
  | none => exact saved
  | some ids =>
    dsimp only
    split
    · exact saved
    · rw [AlertBook.setChannels_ok saved]
      exact saved

theorem Removes.after (h : s.Removes i) : s.after.book.alerts.get? i = none := by
  obtain ⟨w, e⟩ := s
  obtain ⟨a, rfl, id, -⟩ := h
  change ((w.run World.silent (Service.deleteAlert a)).2.book).alerts.get? i = none
  rw [Service.deleteAlert, World.run_alerts, id]
  change ((w.book.delete (some i)).1).alerts.get? i = none
  rw [AlertBook.get?_delete, if_pos (beq_self_eq_true i)]

/-- A step makes no difference to whether an alert is there, unless it creates, inserts or removes
the alert. -/
theorem cases_isSome (keyed : s.before.book.Keyed) (i : Int) :
    (s.after.book.alerts.get? i).isSome = (s.before.book.alerts.get? i).isSome ∨
      (s.Creates i ∨ s.Inserts i) ∨ s.Removes i := by
  obtain ⟨w, e⟩ := s
  have edit : Edit w e (Step.after ⟨w, e⟩).book := World.edit keyed e
  generalize (Step.after ⟨w, e⟩).book = b at edit ⊢
  -- an edit stores the alert under its id, be it there or not
  have saved {a : Alert} {j : Int} {channelIds : Option (List Int)} (id : a.id = some j)
      (valid : a.validate = .ok ()) :
      ((w.book.save a false).1.alerts.get? i).isSome = (w.book.alerts.get? i).isSome ∨
        Step.Inserts ⟨w, .updateAlert a channelIds⟩ i := by
    rw [AlertBook.save_old id, AlertBook.get?_store]
    split
    · next same =>
      obtain rfl := eq_of_beq same
      cases there : w.book.alerts.get? j with
      | none => exact .inr ⟨a, channelIds, rfl, id, valid, there⟩
      | some old => exact .inl rfl
    · exact .inl rfl
  cases edit with
  | nothing => exact .inl rfl
  | ticked unedited => exact .inl (unedited.isSome i)
  | @created a channelIds valid linkable =>
    rw [AlertBook.get?_create]
    split
    · next same =>
      obtain ⟨created, run, id⟩ := World.exists_created valid linkable
      exact .inr (.inl (.inl ⟨a, channelIds, created, rfl, by rw [run], eq_of_beq same ▸ id⟩))
    · exact .inl rfl
  | saved id valid => exact (saved id valid).imp_right fun h => .inl (.inr h)
  | relinked id valid =>
    rw [AlertBook.alerts_setChannels]
    exact (saved id valid).imp_right fun h => .inl (.inr h)
  | @switched a old j there on c =>
    refine .inl ?_
    rw [AlertBook.get?_store]
    split
    · next same =>
      rw [← eq_of_beq same, there]
      rfl
    · rfl
  | @removed a j id =>
    rw [AlertBook.get?_delete]
    split
    · next same =>
      obtain rfl := eq_of_beq same
      cases there : w.book.alerts.get? j with
      | none => exact .inl rfl
      | some old =>
        refine .inr (.inr ⟨a, rfl, id, ?_⟩)
        rw [Service.deleteAlert, World.run_alerts, id]
        change Except.ok (w.book.alerts.has j) = .ok true
        rw [Table.has_eq_isSome, there]
        rfl
    · exact .inl rfl
  | channelCreated => exact .inl rfl
  | channelSaved =>
    rw [AlertBook.alerts_saveChannel]
    exact .inl rfl
  | channelRemoved => exact .inl rfl

/-- An alert is there after a step if the step creates or inserts it, or if it was there and the
step does not remove it. -/
theorem isSome_after_iff (keyed : s.before.book.Keyed) (i : Int) :
    (s.after.book.alerts.get? i).isSome ↔
      (s.Creates i ∨ s.Inserts i) ∨ (s.before.book.alerts.get? i).isSome ∧ ¬s.Removes i := by
  constructor
  · intro there
    have kept : ¬s.Removes i := fun removes => by
      rw [removes.after] at there
      cases there
    rcases cases_isSome keyed i with same | new | gone
    · exact .inr ⟨same ▸ there, kept⟩
    · exact .inl new
    · exact absurd gone kept
  · rintro ((creates | inserts) | ⟨there, kept⟩)
    · exact creates.after.2.2
    · exact inserts.after
    · rcases cases_isSome keyed i with same | (creates | inserts) | gone
      · exact same ▸ there
      · exact creates.after.2.2
      · exact inserts.after
      · exact absurd gone kept

/-- Ids are given in ascending order. -/
theorem nextAlert_le_after (keyed : s.before.book.Keyed) :
    s.before.book.nextAlert ≤ s.after.book.nextAlert := by
  obtain ⟨w, e⟩ := s
  have edit : Edit w e (Step.after ⟨w, e⟩).book := World.edit keyed e
  generalize (Step.after ⟨w, e⟩).book = b at edit ⊢
  cases edit with
  | ticked unedited => exact Int.le_of_eq unedited.nextAlert.symm
  | created =>
    rw [AlertBook.nextAlert_create]
    exact Int.le_of_lt (Int.lt_succ _)
  | saved id =>
    rw [AlertBook.save_old id]
    exact Int.le_refl _
  | relinked id =>
    rw [AlertBook.nextAlert_setChannels, AlertBook.save_old id]
    exact Int.le_refl _
  | nothing | switched | removed | channelCreated | channelRemoved => exact Int.le_refl _
  | channelSaved id => rw [AlertBook.saveChannel, id]

end Step

/-! ### Courses -/

namespace Course

variable {past : List Step} {w : World}

/-- An alert is there if a step created or inserted it and none has removed it since. -/
theorem isSome_iff (course : Course past w) (i : Int) :
    (w.book.alerts.get? i).isSome ↔
      Step.Since (fun s => s.Creates i ∨ s.Inserts i) (·.Removes i) past := by
  induction course with
  | start clock => exact iff_of_false nofun Step.not_since_nil
  | @next past w course e ih =>
    rw [Step.since_append_singleton, ← ih]
    exact Step.isSome_after_iff (s := ⟨w, e⟩) course.reachable.keyed i

/-- The ids that were given are below the next one. -/
theorem lt_nextAlert (course : Course past w) {s : Step} (hs : s ∈ past) {i : Int}
    (creates : s.Creates i) : i < w.book.nextAlert := by
  induction course with
  | start clock => cases hs
  | @next past w course e ih =>
    rcases List.mem_append.mp hs with old | last
    · exact Int.lt_of_lt_of_le (ih old)
        (Step.nextAlert_le_after (s := ⟨w, e⟩) course.reachable.keyed)
    · obtain rfl := List.mem_singleton.mp last
      have next : (w.step e).book.nextAlert = i + 1 := creates.after.2.1
      rw [next]
      exact Int.lt_succ i

/-- **Which alerts are there, and which id a new one is given.**  An alert is there if it was
created, or inserted by an edit while it was not there, and has not been removed since.  A new alert
is given an id that no other new alert was given.  So an alert is there under this id only if an
edit inserted it; if there is none, the new alert has the links that were asked for, and no
triggers. -/
theorem identity (course : Course past w) :
    (∀ i, (w.book.alerts.get? i).isSome ↔
      Step.Since (fun s => s.Creates i ∨ s.Inserts i) (·.Removes i) past) ∧
    ∀ a channelIds created,
      (w.run World.silent (Service.createAlert a channelIds)).1 = .ok created →
      ∃ n, created.id = some n ∧ (∀ s ∈ past, ¬s.Creates n) ∧
        ((w.book.alerts.get? n).isSome ↔ Step.Since (·.Inserts n) (·.Removes n) past) ∧
        (w.book.alerts.get? n = none →
          (w.step (.createAlert a channelIds)).book.linked (some n) = channelIds.eraseDups ∧
          (w.step (.createAlert a channelIds)).book.rows n = []) := by
  refine ⟨course.isSome_iff, fun a channelIds created answer => ?_⟩
  obtain ⟨linkable, id, stored⟩ := World.created_eq answer
  have fresh : ∀ s ∈ past, ¬s.Creates w.book.nextAlert := fun s hs creates =>
    Int.lt_irrefl _ (course.lt_nextAlert hs creates)
  refine ⟨_, id, fresh, (course.isSome_iff _).trans ⟨fun h => ?_, fun h => ?_⟩, fun absent => ?_⟩
  · exact h.imp fun s hs used => used.resolve_left (fresh s hs)
  · exact h.imp fun _ _ => .inr
  · rw [stored, AlertBook.linked_create linkable, AlertBook.rows_create,
      course.consistent.linked_absent absent, course.consistent.rows_absent absent]
    cases channelIds <;> simp

end Course

namespace Sample

/-- An alert that names the id under which it is to be stored. -/
def named (i : Int) : Alert :=
  { alert with id := some i }

end Sample

namespace Course

open Sample

/-- An alert is created and removed, and an edit inserts another one under the id 3.  The next new
alert is given the id 2, under which there is none, and has its own links. -/
theorem identity_of_stray :
    ∃ past w created, Course past w ∧
      ¬Step.Since (fun s => s.Creates 1 ∨ s.Inserts 1) (·.Removes 1) past ∧
      Step.Since (fun s => s.Creates 3 ∨ s.Inserts 3) (·.Removes 3) past ∧
      (w.run World.silent (Service.createAlert alert [1, 1])).1 = .ok created ∧
      created.id = some 2 ∧ ¬Step.Since (·.Inserts 2) (·.Removes 2) past ∧
      (w.step (.createAlert alert [1, 1])).book.linked (some 2) = [1] := by
  have course := ((((Course.start noon).next (.createAlert alert [])).next
    (.deleteAlert (named 1))).next (.createChannel hook)).next (.updateAlert (named 3) (some [1]))
  have linkable : (((((World.start noon).step (.createAlert alert [])).step
      (.deleteAlert (named 1))).step (.createChannel hook)).step
      (.updateAlert (named 3) (some [1]))).book.checkLinks alert.settings.ownerId [1, 1] = .ok () :=
    rfl
  obtain ⟨created, run, id⟩ := World.exists_created (a := alert) rfl linkable
  obtain ⟨present, new⟩ := course.identity
  have answer := congrArg Prod.fst run
  obtain ⟨n, id', -, used, own⟩ := new alert [1, 1] created answer
  obtain rfl : n = 2 := Option.some.inj (id'.symm.trans id)
  refine ⟨_, _, created, course, mt (present 1).mpr ?_, (present 3).mp ?_, answer, id',
    mt used.mpr ?_, (own ?_).1⟩
  all_goals decide +kernel

/-- An edit of an alert that is not there stores it under an id that is still to be given, so that
ids are in use which no new alert was given, and a new alert is given an id that is in use. -/
theorem edit_takes_id :
    (¬∀ past w i, Course past w → (w.book.alerts.get? i).isSome → ∃ s ∈ past, s.Creates i) ∧
      ¬∀ past w a channelIds created, Course past w →
        (w.run World.silent (Service.createAlert a channelIds)).1 = .ok created →
        created.id.bind w.book.alerts.get? = none := by
  have course := (Course.start noon).next (.updateAlert (named 1) none)
  have there :
      (((World.start noon).step (.updateAlert (named 1) none)).book.alerts.get? 1).isSome :=
    rfl
  refine ⟨fun created => ?_, fun unused => ?_⟩
  · obtain ⟨s, hs, a, channelIds, created, event, -⟩ := created _ _ 1 course there
    obtain rfl := List.mem_singleton.mp hs
    cases event
  · have linkable : ((World.start noon).step (.updateAlert (named 1) none)).book.checkLinks
        alert.settings.ownerId [] = .ok () :=
      rfl
    obtain ⟨created, run, id⟩ := World.exists_created (a := alert) rfl linkable
    have absent := unused _ _ alert [] created course (congrArg Prod.fst run)
    rw [id] at absent
    rw [Option.eq_none_iff_forall_not_mem] at absent
    obtain ⟨a, ha⟩ := Option.isSome_iff_exists.mp there
    exact absent a ha

end Course

end LogAlert
