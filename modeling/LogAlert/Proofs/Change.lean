import LogAlert.Proofs.Administration
import LogAlert.Proofs.Evaluation
import LogAlert.Proofs.Records

/-!
# What an event changes

Every event of a run changes one part of the world: the log store, the clock, or the book.  The
book is changed by the administration or by a tick.

## Main definitions

* `Change` : what an event can make of a world.

## Main results

* `World.change` : the world after an event, with what became of each alert.
* `Run.sound`, `Run.logs_sound` : the ids of books and log stores fit together in every run.
-/

namespace LogAlert

/-- What an event makes of a world. -/
inductive Change (w : World) : Event → World → Prop where
  | logged {e : Event} (logs : LogStore) (grown : w.logs.Extends logs) :
      Change w e { w with logs }
  | clocked {e : Event} (time : Moment) (aware : time.isAware) : Change w e { w with clock := time }
  | administered {e : Event} (b : AlertBook) (administered : Administered w.logs.maxId w.book b) :
      Change w e { w with book := b }
  | ticked (previewChars : Int) (notifier : Notifier) (report : TickReport) (b : AlertBook)
      (run : w.run notifier (Evaluator.tick previewChars) = (.ok report, { w with book := b }))
      (sound : b.Sound) (ticked : ∀ i, Evaluator.Ticked previewChars notifier w report b i) :
      Change w (.tick previewChars notifier) { w with book := b }

namespace World

variable {w : World}

private theorem change_channels {e : Event} {b : AlertBook} (hb : w.book.Sound)
    (alerts : b.alerts = w.book.alerts) (history : b.history = w.book.history)
    (nextAlert : b.nextAlert = w.book.nextAlert)
    (nextHistory : b.nextHistory = w.book.nextHistory) :
    Change w e { w with book := b } :=
  .administered b ((Administered.refl hb).congr alerts history nextAlert nextHistory)

private theorem change_saveChannel {e : Event} (hb : w.book.Sound) (c : Channel) :
    Change w e { w with book := (w.book.saveChannel c).1 } := by
  rw [AlertBook.saveChannel]
  split
  · exact change_channels hb rfl rfl rfl rfl
  · exact change_channels hb rfl rfl rfl rfl

theorem change_createAlert (hb : w.book.Sound) (a : Alert) (channelIds : List Int) :
    Change w (.createAlert a channelIds) (w.step (.createAlert a channelIds)) := by
  rw [step, Service.run_createAlert]
  cases valid : a.validate with
  | error e => exact .administered w.book (.refl hb)
  | ok _ =>
    cases w.book.checkLinks a.settings.ownerId channelIds with
    | error e => exact .administered w.book (.refl hb)
    | ok _ =>
      refine .administered _ ?_
      unfold AlertBook.link
      split
      · exact .createAlert hb valid
      · exact (Administered.createAlert hb valid).setChannels ..

theorem change_updateAlert (hb : w.book.Sound) {a : Alert} {channelIds : Option (List Int)}
    (allowed : (Event.updateAlert a channelIds).Allowed w) :
    Change w (.updateAlert a channelIds) (w.step (.updateAlert a channelIds)) := by
  obtain ⟨i, hid, hi⟩ := allowed
  obtain ⟨old, stored⟩ := Option.isSome_iff_exists.mp hi
  rw [step, Service.run_updateAlert hid]
  cases valid : a.validate with
  | error e => exact .administered w.book (.refl hb)
  | ok _ =>
    have saved : Administered w.logs.maxId w.book (w.book.save a false).1 :=
      .updateAlert hb hid stored valid
    cases channelIds with
    | none => exact .administered _ saved
    | some ids =>
      dsimp only
      split
      · exact .administered _ saved
      · exact .administered _ (saved.setChannels ..)

theorem change_toggleAlert (hb : w.book.Sound) (a : Alert) :
    Change w (.toggleAlert a) (w.step (.toggleAlert a)) := by
  rw [step, Service.run_toggleAlert]
  cases found : w.book.get a.id with
  | none => exact .administered w.book (.refl hb)
  | some current =>
    obtain ⟨old, hget, rfl⟩ := Option.map_eq_some_iff.mp found
    obtain ⟨i, -, stored⟩ := Option.bind_eq_some_iff.mp hget
    dsimp only
    split
    · exact .administered _ (.disableAlert hb stored)
    · exact .administered _ (.enableAlert hb stored)

/-- **What events do.**  Logs are only appended to; the administration gives every alert a fate;
a tick judges every enabled alert; and the clock is set to a time that knows its offset. -/
theorem change (hb : w.book.Sound) {e : Event} (allowed : e.Allowed w) : Change w e (w.step e) := by
  cases e with
  | append source message level timestamp metadata =>
    exact .logged _ (.added (w.logs.newRecord source message level timestamp metadata)
      (Int.le_refl _))
  | add r =>
    rw [step, LogStore.add]
    split
    · exact .logged w.logs .same
    · next h => exact .logged _ (.added r (Int.not_lt.mp h))
  | setClock time => exact .clocked time allowed
  | createAlert a channelIds => exact change_createAlert hb a channelIds
  | updateAlert a channelIds => exact change_updateAlert hb allowed
  | toggleAlert a => exact change_toggleAlert hb a
  | deleteAlert a => exact .administered _ (.deleteAlert hb a.id)
  | createChannel c =>
    rw [step, Service.createChannel, run_bind, run_ofExcept]
    cases c.validate with
    | error e => exact .administered w.book (.refl hb)
    | ok _ => exact change_saveChannel hb { c with id := none }
  | updateChannel c =>
    rw [step, Service.updateChannel]
    cases c.id with
    | none => exact .administered w.book (.refl hb)
    | some i =>
      change Change _ _ (w.run silent (.ofExcept c.validate >>= _)).2
      rw [run_bind, run_ofExcept]
      cases c.validate with
      | error e => exact .administered w.book (.refl hb)
      | ok _ => exact change_saveChannel hb c
  | deleteChannel c =>
    rw [step, Service.deleteChannel, run_alerts, AlertBook.answer]
    cases c.id with
    | none => exact .administered w.book (.refl hb)
    | some i => exact change_channels hb rfl rfl rfl rfl
  | tick previewChars notifier =>
    obtain ⟨report, b, run, -, -, sound, ticked⟩ :=
      Evaluator.run_tick notifier previewChars hb.keyed
    rw [step, run]
    exact .ticked previewChars notifier report b run (sound hb) ticked

end World

namespace Run

variable {past : List Step} {w : World}

/-- Every run ends in a sound book. -/
theorem sound (run : Run past w) : w.book.Sound := by
  induction run with
  | start clock aware => exact AlertBook.sound_empty
  | next run e allowed ih =>
    generalize hafter : World.step _ e = w'
    have change := hafter ▸ World.change ih allowed
    cases change with
    | logged => exact ih
    | clocked => exact ih
    | administered b administered => exact administered.sound
    | ticked previewChars notifier report b run sound => exact sound

/-- Every run ends in a sound log store. -/
theorem logs_sound (run : Run past w) : w.logs.Sound := by
  induction run with
  | start clock aware => exact LogStore.sound_empty
  | next run e allowed ih =>
    generalize hafter : World.step _ e = w'
    have change := hafter ▸ World.change run.sound allowed
    cases change with
    | logged logs grown => exact ih.extends grown
    | clocked => exact ih
    | administered => exact ih
    | ticked => exact ih

end Run

end LogAlert
