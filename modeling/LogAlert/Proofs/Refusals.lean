import LogAlert.Proofs.Administration
import LogAlert.Proofs.ReachableStores

/-!
# Refused calls of users

Users create, edit and switch alerts, and create and edit channels.  Such a call is refused
before anything is stored, whatever the reason, with one exception: an edit that also lists
channels stores the settings first, so that they stay when a channel is refused.

## Main definitions

* `Service.UserCall` : the calls.
* `Service.UserCall.Refused` : the reasons for which a call is refused before anything is stored.
* `Service.UserCall.RefusedLate` : the reason for which an edit is refused afterwards.

## Main results

* `Service.UserCall.fails_iff` : when a call fails, how, and what it leaves behind.
-/

namespace LogAlert.Service

/-- A call by which a user creates or edits alerts or channels. -/
inductive UserCall where
  | createAlert (alert : Alert) (channelIds : List Int)
  | updateAlert (alert : Alert) (channelIds : Option (List Int))
  | toggleAlert (alert : Alert)
  | createChannel (channel : Channel)
  | updateChannel (channel : Channel)

namespace UserCall

/-- What a call is answered with. -/
@[reducible] def Answer : UserCall → Type
  | createAlert .. | updateAlert .. => Alert
  | toggleAlert _ => Option Alert
  | createChannel _ | updateChannel _ => Channel

/-- What a call does. -/
def script : (call : UserCall) → Script Engine call.Answer
  | createAlert a channelIds => Service.createAlert a channelIds
  | updateAlert a channelIds => Service.updateAlert a channelIds
  | toggleAlert a => Service.toggleAlert a
  | createChannel c => Service.createChannel c
  | updateChannel c => Service.updateChannel c

/-- Why a call is refused before anything is stored. -/
inductive Refused (b : AlertBook) : UserCall → Failure → Prop where
  | newSettings {a : Alert} {e : Failure} (invalid : a.validate = .error e)
      (channelIds : List Int) : Refused b (createAlert a channelIds) e
  | newLinks {a : Alert} {channelIds : List Int} {e : Failure} (valid : a.validate = .ok ())
      (links : b.checkLinks a.settings.ownerId channelIds = .error e) :
      Refused b (createAlert a channelIds) e
  | notCreated {a : Alert} (id : a.id = none) (channelIds : Option (List Int)) :
      Refused b (updateAlert a channelIds) (.config "id" "alert has not been created")
  | settings {a : Alert} {i : Int} {e : Failure} (id : a.id = some i)
      (invalid : a.validate = .error e) (channelIds : Option (List Int)) :
      Refused b (updateAlert a channelIds) e
  | missing {a : Alert} (gone : b.get a.id = none) :
      Refused b (toggleAlert a) (.config "id" ("alert " ++ idText a.id ++ " does not exist"))
  | newChannel {c : Channel} {e : Failure} (invalid : c.validate = .error e) :
      Refused b (createChannel c) e
  | channelNotCreated {c : Channel} (id : c.id = none) :
      Refused b (updateChannel c) (.config "id" "channel has not been created")
  | channel {c : Channel} {i : Int} {e : Failure} (id : c.id = some i)
      (invalid : c.validate = .error e) : Refused b (updateChannel c) e

/-- Why an edit is refused after its settings are stored, and the book with them. -/
inductive RefusedLate (b : AlertBook) : UserCall → Failure → AlertBook → Prop where
  | links {a : Alert} {i : Int} {channelIds : List Int} {e : Failure} (id : a.id = some i)
      (valid : a.validate = .ok ())
      (links : b.checkLinks a.settings.ownerId channelIds = .error e) :
      RefusedLate b (updateAlert a (some channelIds)) e (b.save a false).1

variable {w w' : World} {notifier : Notifier} {e : Failure}

theorem run_updateAlert_none {a : Alert} (id : a.id = none)
    (channelIds : Option (List Int)) :
    w.run notifier (Service.updateAlert a channelIds) =
      (.error (.config "id" "alert has not been created"), w) := by
  rw [Service.updateAlert, id]
  rfl

theorem run_createChannel (c : Channel) :
    w.run notifier (Service.createChannel c) =
      match c.validate with
      | .error e => (.error e, w)
      | .ok _ =>
        let (b, stored) := w.book.saveChannel { c with id := none }
        (.ok stored, { w with book := b }) := by
  rw [Service.createChannel, World.run_bind, World.run_ofExcept]
  cases c.validate <;> rfl

theorem run_updateChannel {c : Channel} {i : Int} (id : c.id = some i) :
    w.run notifier (Service.updateChannel c) =
      match c.validate with
      | .error e => (.error e, w)
      | .ok _ =>
        let (b, stored) := w.book.saveChannel c
        (.ok stored, { w with book := b }) := by
  rw [Service.updateChannel, id]
  change w.run notifier (.ofExcept c.validate >>= _) = _
  rw [World.run_bind, World.run_ofExcept]
  cases c.validate <;> rfl

theorem run_updateChannel_none {c : Channel} (id : c.id = none) :
    w.run notifier (Service.updateChannel c) =
      (.error (.config "id" "channel has not been created"), w) := by
  rw [Service.updateChannel, id]
  rfl

/-- A call that is refused before anything is stored fails and changes nothing. -/
theorem Refused.run {call : UserCall} (h : Refused w.book call e) :
    w.run notifier call.script = (.error e, w) := by
  cases h with
  | newSettings invalid channelIds => rw [script, run_createAlert, invalid]
  | newLinks valid links => rw [script, run_createAlert, valid, links]
  | notCreated id channelIds => exact run_updateAlert_none id channelIds
  | settings id invalid channelIds => rw [script, run_updateAlert id, invalid]
  | missing gone => rw [script, run_toggleAlert, gone]
  | newChannel invalid => rw [script, run_createChannel, invalid]
  | channelNotCreated id => exact run_updateChannel_none id
  | channel id invalid => rw [script, run_updateChannel id, invalid]

/-- An edit whose channels are refused fails and keeps the settings that it stored. -/
theorem RefusedLate.run {call : UserCall} {b : AlertBook} (h : RefusedLate w.book call e b) :
    w.run notifier call.script = (.error e, { w with book := b }) := by
  obtain ⟨id, valid, links⟩ := h
  rw [script, run_updateAlert id, valid]
  dsimp only
  rw [links]

/-- A call that fails was refused. -/
theorem refused_of_run {call : UserCall} (h : w.run notifier call.script = (.error e, w')) :
    (Refused w.book call e ∧ w' = w) ∨
      ∃ b, RefusedLate w.book call e b ∧ w' = { w with book := b } := by
  cases call with
  | createAlert a channelIds =>
    rw [script, run_createAlert] at h
    split at h
    · next invalid =>
      obtain ⟨rfl, rfl⟩ := h
      exact .inl ⟨.newSettings invalid channelIds, rfl⟩
    · next valid links =>
      obtain ⟨rfl, rfl⟩ := h
      exact .inl ⟨.newLinks valid links, rfl⟩
    · cases h
  | updateAlert a channelIds =>
    cases id : a.id with
    | none =>
      rw [script, run_updateAlert_none id] at h
      obtain ⟨rfl, rfl⟩ := h
      exact .inl ⟨.notCreated id channelIds, rfl⟩
    | some i =>
      rw [script, run_updateAlert id] at h
      split at h
      · next invalid =>
        obtain ⟨rfl, rfl⟩ := h
        exact .inl ⟨.settings id invalid _, rfl⟩
      · cases h
      · next valid =>
        dsimp only at h
        split at h
        · next links =>
          obtain ⟨rfl, rfl⟩ := h
          exact .inr ⟨_, .links id valid links, rfl⟩
        · cases h
  | toggleAlert a =>
    rw [script, run_toggleAlert] at h
    split at h
    · next gone =>
      obtain ⟨rfl, rfl⟩ := h
      exact .inl ⟨.missing gone, rfl⟩
    · cases h
  | createChannel c =>
    rw [script, run_createChannel] at h
    split at h
    · next invalid =>
      obtain ⟨rfl, rfl⟩ := h
      exact .inl ⟨.newChannel invalid, rfl⟩
    · cases h
  | updateChannel c =>
    cases id : c.id with
    | none =>
      rw [script, run_updateChannel_none id] at h
      obtain ⟨rfl, rfl⟩ := h
      exact .inl ⟨.channelNotCreated id, rfl⟩
    | some i =>
      rw [script, run_updateChannel id] at h
      split at h
      · next invalid =>
        obtain ⟨rfl, rfl⟩ := h
        exact .inl ⟨.channel id invalid, rfl⟩
      · cases h

/-- **A call fails** exactly if it is refused, with the reason of the refusal.  It changes
nothing then, unless it is an edit whose channels are refused: that one leaves behind the
settings that it stored. -/
theorem fails_iff (call : UserCall) :
    w.run notifier call.script = (.error e, w') ↔
      (Refused w.book call e ∧ w' = w) ∨
        ∃ b, RefusedLate w.book call e b ∧ w' = { w with book := b } := by
  constructor
  · exact refused_of_run
  · rintro (⟨refused, rfl⟩ | ⟨b, refused, rfl⟩)
    · exact refused.run
    · exact refused.run

end UserCall

end LogAlert.Service

namespace LogAlert

/-- An edit that renames the first alert. -/
def Sample.renaming : Alert :=
  { Sample.alert with
    id := some 1
    settings := { Sample.alert.settings with name := .str "renamed" } }

/-- A refused call may change the book: an edit that lists a channel which does not exist renames
the alert and fails. -/
theorem Service.UserCall.refused_edit_changes_book :
    ¬∀ (w w' : World) (call : Service.UserCall) (field problem : String), w.book.Reachable →
      w.run World.silent call.script = (.error (.config field problem), w') →
      w'.book = w.book := by
  intro unchanged
  let w : World := ⟨(AlertBook.empty.answer (.save Sample.alert true)).2, .empty, Sample.noon⟩
  have refused : RefusedLate w.book (.updateAlert Sample.renaming (some [42])) (unknownChannel 42)
      (w.book.save Sample.renaming false).1 :=
    .links rfl rfl rfl
  have same : (w.book.save Sample.renaming false).1 = w.book :=
    unchanged w _ _ _ _ (.answer .empty _) refused.run
  have renamed : some (Json.str "renamed") = some (Json.str "errors") :=
    congrArg (fun b => (b.alerts.get? 1).map (·.settings.name)) same
  simp at renamed

end LogAlert
