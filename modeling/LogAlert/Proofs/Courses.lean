import LogAlert.Proofs.Consistency
import LogAlert.Proofs.Evaluation
import LogAlert.Proofs.Refusals

/-!
# Courses of events

A course is any sequence of events with any arguments.  Unlike in a run, users may edit alerts that
were never created or are gone, and the clock may be set to any time.

What users make are alerts with their settings, channels, and links.  A tick makes no difference to
these, and a call of a user stores or removes one alert or one channel at most.

## Main definitions

* `Course` : the courses, with the steps that were taken.
* `AlertBook.Unedited` : a book holds what users made of another one.
* `Edit` : what an event makes of the book.

## Main results

* `Course.reachable`, `Course.consistent` : the book after a course.
* `World.unedited_tick` : a tick changes nothing that users made.
* `World.edit` : every event makes one of these edits.
-/

namespace LogAlert

/-- The worlds that any events lead to, with the steps taken on the way. -/
inductive Course : List Step → World → Prop where
  | start (clock : Moment) : Course [] (.start clock)
  | next {past : List Step} {w : World} (course : Course past w) (e : Event) :
      Course (past ++ [⟨w, e⟩]) (w.step e)

/-! ### Reachable books -/

namespace World

variable {w : World}

theorem reachable_answer (reachable : w.book.Reachable) (notifier : Notifier) (r : EngineRequest) :
    (answer notifier r w).2.book.Reachable := by
  cases r with
  | alerts r => exact .answer reachable r
  | logs | now | notify | evaluating => exact reachable

/-- Whatever a script does to a book, it does by requests. -/
theorem reachable_run {α : Type} (reachable : w.book.Reachable) (notifier : Notifier)
    (script : Script Engine α) : (w.run notifier script).2.book.Reachable := by
  induction script generalizing w with
  | done result => exact reachable
  | ask r more ih => exact ih _ (reachable_answer reachable notifier r)

theorem reachable_step (reachable : w.book.Reachable) (e : Event) : (w.step e).book.Reachable := by
  cases e with
  | append | add | setClock => exact reachable
  | createAlert | updateAlert | toggleAlert | deleteAlert | createChannel | updateChannel
  | deleteChannel | tick => exact reachable_run reachable ..

end World

namespace Course

variable {past : List Step} {w : World}

theorem reachable (course : Course past w) : w.book.Reachable := by
  induction course with
  | start clock => exact .empty
  | next _ e ih => exact World.reachable_step ih e

theorem consistent (course : Course past w) : w.book.Consistent :=
  course.reachable.consistent

end Course

/-! ### What users made -/

namespace AlertBook

/-- The book `b'` holds what users made of the book `b`: the same alerts with the same settings, the
same channels and the same links. -/
structure Unedited (b b' : AlertBook) : Prop where
  settings : ∀ i, (b'.alerts.get? i).map (·.settings) = (b.alerts.get? i).map (·.settings)
  channels : b'.channels = b.channels
  links : b'.links = b.links
  nextAlert : b'.nextAlert = b.nextAlert
  nextChannel : b'.nextChannel = b.nextChannel

variable {b b' b'' : AlertBook}

theorem Unedited.refl (b : AlertBook) : b.Unedited b :=
  ⟨fun _ => rfl, rfl, rfl, rfl, rfl⟩

theorem Unedited.trans (first : b.Unedited b') (second : b'.Unedited b'') : b.Unedited b'' :=
  ⟨fun i => (second.settings i).trans (first.settings i), second.channels.trans first.channels,
    second.links.trans first.links, second.nextAlert.trans first.nextAlert,
    second.nextChannel.trans first.nextChannel⟩

theorem Unedited.linked (h : b.Unedited b') (id : Option Int) : b'.linked id = b.linked id := by
  rw [AlertBook.linked, h.links, AlertBook.linked]

theorem Unedited.isSome (h : b.Unedited b') (i : Int) :
    (b'.alerts.get? i).isSome = (b.alerts.get? i).isSome := by
  have same := congrArg Option.isSome (h.settings i)
  rwa [Option.isSome_map, Option.isSome_map] at same

/-- An alert that is there has the settings that it had. -/
theorem Unedited.exists_settings (h : b.Unedited b') {i : Int} {a : Alert}
    (stored : b'.alerts.get? i = some a) :
    ∃ old, b.alerts.get? i = some old ∧ old.settings = a.settings := by
  have same := h.settings i
  rw [stored] at same
  exact Option.map_eq_some_iff.mp same.symm

private theorem unedited_updateCursor (b : AlertBook) (i : Int) (u : Cursor) :
    b.Unedited (b.updateCursor (some i) u).1 := by
  refine ⟨fun j => ?_, ?_, ?_, ?_, ?_⟩
  · rw [get?_updateCursor]
    split
    · next same =>
      rw [eq_of_beq same, Option.map_map]
      rfl
    · rfl
  all_goals
    rw [updateCursor]
    split <;> rfl

private theorem unedited_createHistory (b : AlertBook) (id : Option Int)
    (type data notifications : Json) (time : Moment) :
    b.Unedited (b.createHistory id type data notifications time).1 := by
  rw [createHistory]
  split
  · exact .refl b
  · split
    · exact .refl b
    · exact ⟨fun _ => rfl, rfl, rfl, rfl, rfl⟩

/-- The evaluation of an alert changes nothing that users made. -/
theorem unedited_apply (b : AlertBook) (i : Int) (now : Moment) (e : Effect) :
    b.Unedited (b.apply i now e) := by
  cases e with
  | nothing => exact .refl b
  | moves u => exact unedited_updateCursor b i u
  | triggers type data notifications u =>
    exact (unedited_createHistory ..).trans (unedited_updateCursor ..)

end AlertBook

namespace World

open Evaluator

variable {w : World}

theorem unedited_evaluations (notifier : Notifier) (previewChars : Int) (as : List Alert)
    (ids : ∀ a ∈ as, ∃ i, a.id = some i) :
    w.book.Unedited (w.run notifier (Script.mapList (evaluateGuarded previewChars) as)).2.book := by
  induction as generalizing w with
  | nil => exact .refl _
  | cons a as ih =>
    obtain ⟨i, hid⟩ := ids a List.mem_cons_self
    obtain ⟨o, e, hrun, -⟩ := run_evaluateGuarded (w := w) notifier previewChars hid
    have rest := ih (w := { w with book := w.book.apply i w.clock e })
      fun a' ha' => ids a' (List.mem_cons_of_mem a ha')
    unfold World.run at *
    rw [Script.run_mapList_cons, hrun]
    dsimp only
    generalize Script.run _ _ _ = ended at rest
    rcases ended with ⟨⟨⟩ | ⟨os⟩, w'⟩ <;> exact (AlertBook.unedited_apply ..).trans rest

/-- **A tick changes nothing that users made.** -/
theorem unedited_tick (keyed : w.book.Keyed) (notifier : Notifier) (previewChars : Int) :
    w.book.Unedited (w.run notifier (tick previewChars)).2.book := by
  have evaluated := unedited_evaluations (w := w) notifier previewChars w.book.listEnabled
    fun a ha => by
      obtain ⟨i, a₀, hget, -, rfl⟩ := (mem_listEnabled keyed).mp ha
      exact ⟨i, (keyed.id_eq hget :)⟩
  unfold tick
  rw [run_bind, run_now]
  dsimp only
  rw [run_bind, run_attempt, run_alerts, AlertBook.answer]
  dsimp only
  rw [run_bind]
  generalize w.run notifier (Script.mapList (evaluateGuarded previewChars) w.book.listEnabled) =
    ended at evaluated
  rcases ended with ⟨⟨⟩ | ⟨os⟩, w'⟩ <;> exact evaluated

end World

/-! ### Channels -/

namespace AlertBook

section Channels

variable (b : AlertBook) (c : Channel)

/-- A channel is stored under its id, or under the next one if it has none. -/
theorem get?_saveChannel (j : Int) : (b.saveChannel c).1.channels.get? j =
    if c.id.getD b.nextChannel == j then some { c with id := some (c.id.getD b.nextChannel) }
    else b.channels.get? j := by
  rw [saveChannel]
  split
  · next id =>
    rw [id]
    exact Table.get?_put ..
  · next i id =>
    have same : { c with id := some i } = c := by rw [← id]
    rw [id, Option.getD_some, same]
    exact Table.get?_put ..

@[simp] theorem alerts_saveChannel : (b.saveChannel c).1.alerts = b.alerts := by
  rw [saveChannel]
  split <;> rfl

@[simp] theorem linked_saveChannel (id : Option Int) :
    (b.saveChannel c).1.linked id = b.linked id := by
  rw [saveChannel]
  split <;> rfl

theorem get?_deleteChannel (i j : Int) : (b.deleteChannel (some i)).1.channels.get? j =
    if i == j then none else b.channels.get? j :=
  Table.get?_erase ..

end Channels

end AlertBook

/-! ### Alerts with their links -/

namespace AlertBook

variable {b : AlertBook} {owner : Json} {channelIds : List Int}

/-- An alert may be linked to channels that are there and that its owner may use. -/
theorem checkLinks_ok_iff : b.checkLinks owner channelIds = .ok () ↔
    ∀ id ∈ channelIds, ∃ c, b.channels.get? id = some c ∧ Service.mayUse owner c := by
  induction channelIds with
  | nil => exact iff_of_true rfl (List.forall_mem_nil _)
  | cons id ids ih =>
    rw [checkLinks, List.forall_mem_cons]
    cases b.channels.get? id with
    | none => simp
    | some c =>
      dsimp only
      split
      · next may => simp [may, ih]
      · next not => simp [not]

/-- Channels that an alert may be linked to are there. -/
theorem isSome_of_checkLinks (linkable : b.checkLinks owner channelIds = .ok ()) :
    ∀ c ∈ channelIds, (b.channels.get? c).isSome := by
  intro c hc
  obtain ⟨channel, stored, -⟩ := checkLinks_ok_iff.mp linkable c hc
  rw [stored]
  rfl

/-- Linking an alert changes its links alone. -/
private theorem exists_setChannels (b : AlertBook) (id : Option Int) (channelIds : List Int) :
    ∃ links, (b.setChannels id channelIds).1 = { b with links } := by
  rw [setChannels]
  split <;> exact ⟨_, rfl⟩

@[simp] theorem alerts_setChannels (b : AlertBook) (id : Option Int) (channelIds : List Int) :
    (b.setChannels id channelIds).1.alerts = b.alerts := by
  obtain ⟨links, h⟩ := exists_setChannels b id channelIds
  rw [h]

@[simp] theorem channels_setChannels (b : AlertBook) (id : Option Int) (channelIds : List Int) :
    (b.setChannels id channelIds).1.channels = b.channels := by
  obtain ⟨links, h⟩ := exists_setChannels b id channelIds
  rw [h]

@[simp] theorem nextAlert_setChannels (b : AlertBook) (id : Option Int) (channelIds : List Int) :
    (b.setChannels id channelIds).1.nextAlert = b.nextAlert := by
  obtain ⟨links, h⟩ := exists_setChannels b id channelIds
  rw [h]

/-- An alert that is linked to channels which are there is linked to all of them. -/
theorem linked_setChannels {i : Int} (there : (b.alerts.get? i).isSome)
    (stored : ∀ c ∈ channelIds, (b.channels.get? c).isSome) (id : Option Int) :
    (b.setChannels (some i) channelIds).1.linked id =
      if id = some i then channelIds.eraseDups else b.linked id := by
  have all : channelIds.eraseDups.filter b.channels.has = channelIds.eraseDups := by
    refine List.filter_eq_self.mpr fun c hc => ?_
    rw [Table.has_eq_isSome]
    exact stored c (List.mem_eraseDups.mp hc)
  rw [setChannels_ok there, linked_put, all]

/-- The book after a new alert is stored, with the newest record as its baseline, and linked. -/
def create (b : AlertBook) (newest : Option Int) (a : Alert) (channelIds : List Int) : AlertBook :=
  (b.save (Service.baseline a newest) true).1.link (some b.nextAlert) channelIds

section Create

variable (b : AlertBook) (newest : Option Int) (a : Alert) (channelIds : List Int)

private theorem exists_create : ∃ links, b.create newest a channelIds =
    { (b.save (Service.baseline a newest) true).1 with links } := by
  unfold create link
  split
  · exact ⟨_, rfl⟩
  · exact exists_setChannels ..

theorem get?_create (j : Int) : (b.create newest a channelIds).alerts.get? j =
    if b.nextAlert == j then
      some { Service.baseline a newest with id := some b.nextAlert }
    else b.alerts.get? j := by
  obtain ⟨links, h⟩ := exists_create b newest a channelIds
  rw [h]
  exact get?_store ..

@[simp] theorem rows_create : (b.create newest a channelIds).rows = b.rows := by
  obtain ⟨links, h⟩ := exists_create b newest a channelIds
  rw [h]
  rfl

@[simp] theorem channels_create : (b.create newest a channelIds).channels = b.channels := by
  obtain ⟨links, h⟩ := exists_create b newest a channelIds
  rw [h]
  rfl

@[simp] theorem nextAlert_create : (b.create newest a channelIds).nextAlert = b.nextAlert + 1 := by
  obtain ⟨links, h⟩ := exists_create b newest a channelIds
  rw [h]
  rfl

end Create

/-- A new alert that lists no channels keeps the links that there are under its id. -/
theorem linked_create (linkable : b.checkLinks owner channelIds = .ok ()) (newest : Option Int)
    (a : Alert) (id : Option Int) : (b.create newest a channelIds).linked id =
      if id = some b.nextAlert ∧ channelIds ≠ [] then channelIds.eraseDups else b.linked id := by
  have stored := isSome_of_checkLinks linkable
  have kept : (b.save (Service.baseline a newest) true).1.linked id = b.linked id := by
    rw [save_new rfl]
    exact linked_store ..
  unfold create link
  cases channelIds with
  | nil => simpa using kept
  | cons c cs =>
    have there : ((b.save (Service.baseline a newest) true).1.alerts.get? b.nextAlert).isSome := by
      rw [save_new rfl, get?_store, if_pos (beq_self_eq_true _)]
      rfl
    rw [List.isEmpty_cons, if_neg Bool.false_ne_true, linked_setChannels there stored, kept]
    simp

end AlertBook

/-! ### Edits -/

/-- What an event makes of the book of a world: it stores or removes one alert or one channel, or it
changes nothing that users made. -/
inductive Edit (w : World) : Event → AlertBook → Prop where
  | nothing {e : Event} : Edit w e w.book
  | ticked {previewChars : Int} {notifier : Notifier} {b : AlertBook}
      (unedited : w.book.Unedited b) : Edit w (.tick previewChars notifier) b
  /-- A new alert is stored under the next id. -/
  | created {a : Alert} {channelIds : List Int} (valid : a.validate = .ok ())
      (linkable : w.book.checkLinks a.settings.ownerId channelIds = .ok ()) :
      Edit w (.createAlert a channelIds) (w.book.create w.logs.maxId a channelIds)
  /-- An alert is stored under its id, and its links are kept: no channels are listed, or channels
  that it may not be linked to. -/
  | saved {a : Alert} {i : Int} {channelIds : Option (List Int)} (id : a.id = some i)
      (valid : a.validate = .ok ())
      (kept : ∀ ids ∈ channelIds, ∃ e, w.book.checkLinks a.settings.ownerId ids = .error e) :
      Edit w (.updateAlert a channelIds) (w.book.save a false).1
  /-- An alert is stored under its id and linked to other channels. -/
  | relinked {a : Alert} {i : Int} {channelIds : List Int} (id : a.id = some i)
      (valid : a.validate = .ok ())
      (linkable : w.book.checkLinks a.settings.ownerId channelIds = .ok ()) :
      Edit w (.updateAlert a (some channelIds))
        ((w.book.save a false).1.setChannels (some i) channelIds).1
  /-- An alert that is there is switched on or off. -/
  | switched {a old : Alert} {i : Int} (there : w.book.alerts.get? i = some old) (on : Bool)
      (c : Cursor) : Edit w (.toggleAlert a) (w.book.store i (Service.switched old on c) c).1
  | removed {a : Alert} {i : Int} (id : a.id = some i) :
      Edit w (.deleteAlert a) (w.book.delete (some i)).1
  | channelCreated {c : Channel} (valid : c.validate = .ok ()) :
      Edit w (.createChannel c) (w.book.saveChannel { c with id := none }).1
  | channelSaved {c : Channel} {i : Int} (id : c.id = some i) (valid : c.validate = .ok ()) :
      Edit w (.updateChannel c) (w.book.saveChannel c).1
  | channelRemoved {c : Channel} {i : Int} (id : c.id = some i) :
      Edit w (.deleteChannel c) (w.book.deleteChannel (some i)).1

namespace World

variable {w : World}

theorem edit_createAlert (a : Alert) (channelIds : List Int) :
    Edit w (.createAlert a channelIds) (w.step (.createAlert a channelIds)).book := by
  rw [step, Service.run_createAlert]
  cases valid : a.validate with
  | error e => exact .nothing
  | ok _ =>
    cases linkable : w.book.checkLinks a.settings.ownerId channelIds with
    | error e => exact .nothing
    | ok _ => exact .created valid linkable

theorem edit_updateAlert (a : Alert) (channelIds : Option (List Int)) :
    Edit w (.updateAlert a channelIds) (w.step (.updateAlert a channelIds)).book := by
  cases id : a.id with
  | none =>
    rw [step, Service.UserCall.run_updateAlert_none id]
    exact .nothing
  | some i =>
    rw [step, Service.run_updateAlert id]
    cases valid : a.validate with
    | error e => exact .nothing
    | ok _ =>
      cases channelIds with
      | none => exact .saved id valid nofun
      | some ids =>
        dsimp only
        cases links : w.book.checkLinks a.settings.ownerId ids with
        | error e => exact .saved id valid fun _ h => Option.some.inj h ▸ ⟨e, links⟩
        | ok _ => exact .relinked id valid links

theorem edit_toggleAlert (a : Alert) (keyed : w.book.Keyed) :
    Edit w (.toggleAlert a) (w.step (.toggleAlert a)).book := by
  rw [step, Service.run_toggleAlert]
  cases found : w.book.get a.id with
  | none => exact .nothing
  | some current =>
    obtain ⟨old, hget, rfl⟩ := Option.map_eq_some_iff.mp found
    obtain ⟨i, -, there⟩ := Option.bind_eq_some_iff.mp hget
    have stored (on resetBaseline : Bool) (c : Cursor) : Edit w (.toggleAlert a)
        (w.book.save (Service.switched (w.book.load old) on c) resetBaseline).1 := by
      have id : (Service.switched (w.book.load old) on c).id = some i := (keyed.id_eq there :)
      rw [AlertBook.save_old id]
      exact .switched there on _
    dsimp only
    split
    · exact stored ..
    · exact stored ..

/-- **Every event makes an edit** of what users made. -/
theorem edit (keyed : w.book.Keyed) (e : Event) : Edit w e (w.step e).book := by
  cases e with
  | append | add | setClock => exact .nothing
  | createAlert a channelIds => exact edit_createAlert a channelIds
  | updateAlert a channelIds => exact edit_updateAlert a channelIds
  | toggleAlert a => exact edit_toggleAlert a keyed
  | deleteAlert a =>
    rw [step, Service.deleteAlert, run_alerts, AlertBook.answer]
    cases id : a.id with
    | none => exact .nothing
    | some i => exact .removed id
  | createChannel c =>
    rw [step, Service.UserCall.run_createChannel]
    cases valid : c.validate with
    | error e => exact .nothing
    | ok _ => exact .channelCreated valid
  | updateChannel c =>
    cases id : c.id with
    | none =>
      rw [step, Service.UserCall.run_updateChannel_none id]
      exact .nothing
    | some i =>
      rw [step, Service.UserCall.run_updateChannel id]
      cases valid : c.validate with
      | error e => exact .nothing
      | ok _ => exact .channelSaved id valid
  | deleteChannel c =>
    rw [step, Service.deleteChannel, run_alerts, AlertBook.answer]
    cases id : c.id with
    | none => exact .nothing
    | some i => exact .channelRemoved id
  | tick previewChars notifier => exact .ticked (unedited_tick keyed notifier previewChars)

end World

namespace Sample

/-- A channel that may be stored. -/
def hook : Channel where
  type := .str "slack"
  name := .str "operators"
  config := .obj [("webhook_url", .str "https://hooks.example/operators")]
  enabled := .bool true
  ownerId := .null
  id := none

end Sample

end LogAlert
