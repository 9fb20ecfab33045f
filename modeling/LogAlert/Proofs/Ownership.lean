import LogAlert.Proofs.Identity

/-!
# Channels of other users

An alert with an owner may be linked to channels of this owner and to channels without an owner.
This is checked when the alert is linked.  Afterwards the owner of the alert or of the channel may
be changed while the link is kept, and then the alert is linked to a channel of another user.  There
is no other way to this.

## Main definitions

* `AlertBook.Foreign` : an alert is linked to a channel of another user.
* `Event.Estranges` : the events that make a link foreign.

## Main results

* `Event.Estranges.foreign` : these events do so.
* `AlertBook.Foreign.of_step` : no other event does.
* `Course.foreign_iff` : which links are foreign after a course.
* `Course.ownership` : which channels of other users an alert may notify through.
-/

namespace LogAlert

/-- The alert `i` is linked to the channel `c`, which its owner may not use. -/
def AlertBook.Foreign (b : AlertBook) (i c : Int) : Prop :=
  ∃ a ch, b.alerts.get? i = some a ∧ c ∈ b.linked (some i) ∧ b.channels.get? c = some ch ∧
    ¬Service.mayUse a.settings.ownerId ch

instance (b : AlertBook) (i c : Int) : Decidable (b.Foreign i c) :=
  decidable_of_iff (∃ a ∈ b.alerts.get? i, ∃ ch ∈ b.channels.get? c,
      c ∈ b.linked (some i) ∧ ¬Service.mayUse a.settings.ownerId ch)
    ⟨fun ⟨a, alert, ch, channel, linked, closed⟩ => ⟨a, ch, alert, linked, channel, closed⟩,
      fun ⟨a, ch, alert, linked, channel, closed⟩ => ⟨a, alert, ch, channel, linked, closed⟩⟩

/-- The event keeps the link of the alert `i` to the channel `c` and stores one of the two, after
which the owner of the alert may not use the channel. -/
inductive Event.Estranges (b : AlertBook) (i c : Int) : Event → Prop where
  /-- An alert is edited, and no channels are listed or they are refused. -/
  | alert {a : Alert} {ch : Channel} {channelIds : Option (List Int)} (id : a.id = some i)
      (valid : a.validate = .ok ())
      (kept : ∀ ids ∈ channelIds, ∃ e, b.checkLinks a.settings.ownerId ids = .error e)
      (linked : c ∈ b.linked (some i)) (channel : b.channels.get? c = some ch)
      (closed : ¬Service.mayUse a.settings.ownerId ch) :
      Estranges b i c (.updateAlert a channelIds)
  /-- A new alert is stored in the place of one that is there. -/
  | newAlert {a : Alert} {ch : Channel} (next : b.nextAlert = i) (valid : a.validate = .ok ())
      (linked : c ∈ b.linked (some i)) (channel : b.channels.get? c = some ch)
      (closed : ¬Service.mayUse a.settings.ownerId ch) :
      Estranges b i c (.createAlert a [])
  | channel {a : Alert} {ch : Channel} (id : ch.id = some c) (valid : ch.validate = .ok ())
      (linked : c ∈ b.linked (some i)) (alert : b.alerts.get? i = some a)
      (closed : ¬Service.mayUse a.settings.ownerId ch) :
      Estranges b i c (.updateChannel ch)
  /-- A new channel is stored in the place of one that is there. -/
  | newChannel {a : Alert} {ch : Channel} (next : b.nextChannel = c) (valid : ch.validate = .ok ())
      (linked : c ∈ b.linked (some i)) (alert : b.alerts.get? i = some a)
      (closed : ¬Service.mayUse a.settings.ownerId ch) :
      Estranges b i c (.createChannel ch)

variable {w : World} {e : Event} {i c : Int}

/-! ### One step -/

/-- An event that estranges a link makes it foreign. -/
theorem Event.Estranges.foreign (h : e.Estranges w.book i c) : (w.step e).book.Foreign i c := by
  cases h with
  | @alert a ch channelIds id valid kept linked channel closed =>
    have saved : (w.book.save a false).1.Foreign i c := by
      rw [AlertBook.save_old id]
      refine ⟨_, ch, (AlertBook.get?_store ..).trans (if_pos (beq_self_eq_true i)), ?_, channel,
        closed⟩
      rwa [AlertBook.linked_store]
    rw [World.step, Service.run_updateAlert id, valid]
    cases channelIds with
    | none => exact saved
    | some ids =>
      obtain ⟨e, refused⟩ := kept ids rfl
      dsimp only
      rw [refused]
      exact saved
  | @newAlert a ch next valid linked channel closed =>
    have linkable : w.book.checkLinks a.settings.ownerId [] = .ok () := rfl
    obtain ⟨created, run, -⟩ := World.exists_created valid linkable
    rw [World.step, run]
    refine ⟨_, ch, (AlertBook.get?_create ..).trans (if_pos (beq_iff_eq.mpr next)), ?_, ?_, closed⟩
    · rw [AlertBook.linked_create linkable, if_neg fun h => h.2 rfl]
      exact linked
    · rwa [AlertBook.channels_create]
  | @channel a ch id valid linked alert closed =>
    rw [World.step, Service.UserCall.run_updateChannel id, valid]
    dsimp only
    rw [AlertBook.saveChannel, id]
    exact ⟨a, _, alert, linked, Table.get?_put_self .., closed⟩
  | @newChannel a ch next valid linked alert closed =>
    rw [World.step, Service.UserCall.run_createChannel, valid]
    subst next
    exact ⟨a, _, alert, linked, Table.get?_put_self .., closed⟩

/-- A link that is foreign after an event was foreign before, or the event estranges it. -/
theorem AlertBook.Foreign.of_step (keyed : w.book.Keyed) (h : (w.step e).book.Foreign i c) :
    w.book.Foreign i c ∨ e.Estranges w.book i c := by
  have edit := World.edit keyed e
  generalize (w.step e).book = b at edit h
  obtain ⟨a, ch, alert, linked, channel, closed⟩ := h
  -- a link that was asked for is not foreign
  have asked {owner : Json} {channelIds : List Int}
      (linkable : w.book.checkLinks owner channelIds = .ok ()) (hc : c ∈ channelIds.eraseDups)
      (stored : w.book.channels.get? c = some ch) : Service.mayUse owner ch := by
    obtain ⟨ch', stored', may⟩ := checkLinks_ok_iff.mp linkable c (List.mem_eraseDups.mp hc)
    rwa [Option.some.inj (stored.symm.trans stored')]
  cases edit with
  | nothing => exact .inl ⟨a, ch, alert, linked, channel, closed⟩
  | ticked unedited =>
    obtain ⟨old, there, settings⟩ := unedited.exists_settings alert
    rw [unedited.linked] at linked
    rw [unedited.channels] at channel
    exact .inl ⟨old, ch, there, linked, channel, settings ▸ closed⟩
  | @created new channelIds valid linkable =>
    rw [channels_create] at channel
    rw [get?_create] at alert
    rw [linked_create linkable] at linked
    split at alert
    · next next =>
      obtain rfl := Option.some.inj alert
      split at linked
      · exact absurd (asked linkable linked channel) closed
      · next kept =>
        obtain rfl : channelIds = [] :=
          not_not.mp fun h => kept ⟨congrArg some (eq_of_beq next).symm, h⟩
        exact .inr (.newAlert (eq_of_beq next) valid linked channel closed)
    · next other =>
      rw [if_neg fun h => other (beq_iff_eq.mpr (Option.some.inj h.1).symm)] at linked
      exact .inl ⟨a, ch, alert, linked, channel, closed⟩
  | @saved new j channelIds id valid kept =>
    rw [save_old id] at alert linked channel
    rw [linked_store] at linked
    rw [get?_store] at alert
    split at alert
    · next same =>
      obtain rfl := Option.some.inj alert
      exact .inr (.alert (eq_of_beq same ▸ id) valid kept linked channel closed)
    · exact .inl ⟨a, ch, alert, linked, channel, closed⟩
  | @relinked new j channelIds id valid linkable =>
    rw [save_old id] at alert linked channel
    rw [channels_setChannels] at channel
    rw [alerts_setChannels, get?_store] at alert
    have there : ((w.book.store j new (w.book.cursorFor j new false)).1.alerts.get? j).isSome := by
      rw [get?_store, if_pos (beq_self_eq_true j)]
      rfl
    have stored := isSome_of_checkLinks linkable
    rw [linked_setChannels there stored, linked_store] at linked
    split at alert
    · next same =>
      obtain rfl := Option.some.inj alert
      rw [if_pos (congrArg some (eq_of_beq same).symm)] at linked
      exact absurd (asked linkable linked channel) closed
    · next other =>
      rw [if_neg fun h => other (beq_iff_eq.mpr (Option.some.inj h).symm)] at linked
      exact .inl ⟨a, ch, alert, linked, channel, closed⟩
  | @switched given old j there on cursor =>
    rw [linked_store] at linked
    rw [get?_store] at alert
    split at alert
    · next same =>
      obtain rfl := Option.some.inj alert
      exact .inl ⟨old, ch, eq_of_beq same ▸ there, linked, channel, closed⟩
    · exact .inl ⟨a, ch, alert, linked, channel, closed⟩
  | @removed gone j id =>
    rw [linked_delete] at linked
    rw [get?_delete] at alert
    split at alert
    · cases alert
    · split at linked
      · cases linked
      · exact .inl ⟨a, ch, alert, linked, channel, closed⟩
  | channelCreated valid =>
    rw [get?_saveChannel] at channel
    split at channel
    · next same =>
      obtain rfl := Option.some.inj channel
      exact .inr (.newChannel (eq_of_beq same) valid linked alert closed)
    · exact .inl ⟨a, ch, alert, linked, channel, closed⟩
  | channelSaved id valid =>
    rw [alerts_saveChannel] at alert
    rw [linked_saveChannel] at linked
    rw [get?_saveChannel, id] at channel
    split at channel
    · next same =>
      obtain rfl := Option.some.inj channel
      exact .inr (.channel (eq_of_beq same ▸ id) valid linked alert closed)
    · exact .inl ⟨a, ch, alert, linked, channel, closed⟩
  | channelRemoved =>
    rw [linked_deleteChannel] at linked
    rw [get?_deleteChannel] at channel
    split at channel
    · cases channel
    · exact .inl ⟨a, ch, alert, List.mem_of_mem_erase linked, channel, closed⟩

/-! ### Courses -/

namespace Course

variable {past : List Step} {w : World}

/-- A link is foreign if an event estranged it and it has been foreign since. -/
theorem foreign_iff (course : Course past w) (i c : Int) : w.book.Foreign i c ↔
    Step.Since (fun s => s.event.Estranges s.before.book i c)
      (fun s => ¬s.after.book.Foreign i c) past := by
  induction course with
  | start clock =>
    refine iff_of_false ?_ Step.not_since_nil
    rintro ⟨a, ch, alert, -⟩
    cases alert
  | @next past w course e ih =>
    rw [Step.since_append_singleton, ← ih, not_not]
    constructor
    · intro after
      exact (after.of_step course.reachable.keyed).symm.imp_right fun before => ⟨before, after⟩
    · rintro (estranges | ⟨-, after⟩)
      · exact estranges.foreign
      · exact after

/-- **An alert is linked to a channel of another user** if an event estranged the link, by a new
owner of the alert or of the channel, and the link has been foreign since.  So an alert notifies
through a channel of another user only after such an event. -/
theorem ownership (course : Course past w) :
    (∀ i c, w.book.Foreign i c ↔ Step.Since (fun s => s.event.Estranges s.before.book i c)
      (fun s => ¬s.after.book.Foreign i c) past) ∧
    ∀ a ∈ w.book.listEnabled, ∀ ch ∈ a.channels, ¬Service.mayUse a.settings.ownerId ch →
      ∃ i c, a.id = some i ∧ w.book.channels.get? c = some ch ∧
        ∃ s ∈ past, s.event.Estranges s.before.book i c := by
  refine ⟨course.foreign_iff, fun a enabled ch used closed => ?_⟩
  have keyed := course.reachable.keyed
  obtain ⟨i, stored, there, -, rfl⟩ := (Evaluator.mem_listEnabled keyed).mp enabled
  have id : stored.id = some i := keyed.id_eq there
  rw [AlertBook.load_eq _ id] at used closed
  obtain ⟨c, linked, channel⟩ := List.mem_filterMap.mp used
  obtain ⟨before, s, after, split, estranges, -⟩ :=
    (course.foreign_iff i c).mp ⟨stored, ch, there, linked, channel, closed⟩
  exact ⟨i, c, id, channel, s, split ▸ List.mem_append_right before List.mem_cons_self, estranges⟩

end Course

namespace Sample

/-- A channel of a user. -/
def ownHook (owner : String) : Channel :=
  { hook with ownerId := .str owner }

/-- An alert of a user, stored under the first id. -/
def ownAlert (owner : String) : Alert :=
  { named 1 with settings := { alert.settings with ownerId := .str owner } }

end Sample

namespace Course

open Sample

/-- An alert is linked to a channel of its owner and given to another user, who is then notified
through this channel. -/
theorem ownership_of_given :
    ∃ past s w, Course (past ++ [s]) w ∧
      ¬Step.Since (fun s => s.event.Estranges s.before.book 1 1)
        (fun s => ¬s.after.book.Foreign 1 1) past ∧
      Step.Since (fun s => s.event.Estranges s.before.book 1 1)
        (fun s => ¬s.after.book.Foreign 1 1) (past ++ [s]) ∧
      ∃ a ∈ w.book.listEnabled, ∃ ch ∈ a.channels, ¬Service.mayUse a.settings.ownerId ch ∧
        ∃ i c, a.id = some i ∧ w.book.channels.get? c = some ch ∧
          ∃ s' ∈ past ++ [s], s'.event.Estranges s'.before.book i c := by
  have linked := ((Course.start noon).next (.createChannel (ownHook "ada"))).next
    (.createAlert (ownAlert "ada") [1])
  have given := linked.next (.updateAlert (ownAlert "ben") none)
  obtain ⟨foreign, through⟩ := given.ownership
  let w : World := (((World.start noon).step (.createChannel (ownHook "ada"))).step
    (.createAlert (ownAlert "ada") [1])).step (.updateAlert (ownAlert "ben") none)
  let loaded : Alert := w.book.load { ownAlert "ben" with channels := [] }
  let ch : Channel := { ownHook "ada" with id := some 1 }
  have enabled : loaded ∈ w.book.listEnabled := List.mem_of_getElem? (i := 0) rfl
  have used : ch ∈ loaded.channels := List.mem_of_getElem? (i := 0) rfl
  refine ⟨_, _, _, given, mt (linked.ownership.1 1 1).mpr ?_, (foreign 1 1).mp ?_, loaded, enabled,
    ch, used, ?_, through loaded enabled ch used ?_⟩
  all_goals decide +kernel

/-- An edit may give an alert to another user and keep its links. -/
theorem edit_estranges :
    ¬∀ past w i c a ch, Course past w → w.book.alerts.get? i = some a →
      c ∈ w.book.linked (some i) → w.book.channels.get? c = some ch →
      a.settings.ownerId = .null ∨ ch.ownerId = .null ∨ ch.ownerId = a.settings.ownerId := by
  intro own
  have given := (((Course.start noon).next (.createChannel (ownHook "ada"))).next
    (.createAlert (ownAlert "ada") [1])).next (.updateAlert (ownAlert "ben") none)
  rcases own _ _ 1 1 _ _ given rfl (List.mem_of_elem_eq_true rfl) rfl with h | h | h
  · cases h
  · cases h
  · simp [ownHook, ownAlert] at h

end Course

end LogAlert
