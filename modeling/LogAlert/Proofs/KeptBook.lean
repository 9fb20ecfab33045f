import Mathlib.Data.List.Pairwise
import LogAlert.Proofs.Book
import LogAlert.Proofs.StoredForms

/-!
# Books that can be stored

A book whose entries are all read back when they are stored as texts, and whose ids and triggers
are in order.  The requests of an alert store keep such a book so, if what they bring can be stored
and the triggers of an alert come in the order of their times.

## Main definitions

* `AlertBook.alert?`, `AlertBook.channel?`, `AlertBook.linked`, `AlertBook.recorded` : the parts of
  a book by an id that may be absent.
* `AlertBook.Storable` : the books that can be stored.

## Main results

* `AlertBook.alert?_store`, `AlertBook.linked_deleteChannel`, … : the parts after a request.
* `AlertBook.listHistory_eq` : the latest triggers are those that were recorded last.
* `AlertBook.Storable.save`, `AlertBook.Storable.createHistory`, … : the requests keep a book
  storable.
-/

namespace LogAlert

theorem nodup_eraseDups {α : Type} [BEq α] [LawfulBEq α] (xs : List α) :
    xs.eraseDups.Nodup := by
  induction h : xs.length using Nat.strongRecOn generalizing xs with
  | ind n ih =>
    cases xs with
    | nil => exact List.nodup_nil
    | cons x xs =>
      rw [List.eraseDups_cons]
      refine List.nodup_cons.mpr ⟨fun hmem => ?_, ih _ ?_ _ rfl⟩
      · have hne := (List.mem_filter.mp (List.mem_eraseDups.mp hmem)).2
        rw [beq_self_eq_true] at hne
        cases hne
      · rw [← h, List.length_cons]
        exact Nat.lt_succ_of_le (List.length_filter_le _ xs)

/-! ### Tables by an id that may be absent -/

namespace Table

variable {α : Type} (t : Table Int α) (i : Int)

theorem bind_put (x : α) (id : Option Int) :
    id.bind (put i x t).get? = if id = some i then some x else id.bind t.get? := by
  cases id with
  | none => rfl
  | some j =>
    rw [Option.bind_some, Option.bind_some, get?_put]
    exact if_congr (beq_iff_eq.trans (eq_comm.trans (Option.some_inj).symm)) rfl rfl

theorem bind_erase (id : Option Int) :
    id.bind (erase i t).get? = if id = some i then none else id.bind t.get? := by
  cases id with
  | none => rfl
  | some j =>
    rw [Option.bind_some, Option.bind_some, get?_erase]
    exact if_congr (beq_iff_eq.trans (eq_comm.trans (Option.some_inj).symm)) rfl rfl

end Table

namespace AlertBook

/-! ### Parts by id -/

/-- The alert that is kept under an id, without its channels. -/
def alert? (b : AlertBook) (id : Option Int) : Option Alert :=
  id.bind b.alerts.get?

/-- The channel that is kept under an id. -/
def channel? (b : AlertBook) (id : Option Int) : Option Channel :=
  id.bind b.channels.get?

/-- The channels that an alert is linked to. -/
def linked (b : AlertBook) (id : Option Int) : List Int :=
  (id.bind b.links.get?).getD []

/-- The triggers that were recorded of an alert. -/
def recorded (b : AlertBook) (id : Option Int) : List History :=
  (id.bind b.history.get?).getD []

/-- The cursor of an alert, the empty one if there is no alert. -/
def cursor (b : AlertBook) (id : Option Int) : Cursor :=
  ((b.alert? id).map (·.cursor)).getD .empty

variable {b : AlertBook}

theorem load_eq (b : AlertBook) {a : Alert} {i : Int} (h : a.id = some i) :
    b.load a = { a with channels := (b.linked (some i)).filterMap b.channels.get? } := by
  rw [load, h]
  rfl

theorem cursor_eq {i : Int} {a : Alert} (there : b.alerts.get? i = some a) :
    b.cursor (some i) = a.cursor := by
  rw [cursor, alert?, Option.bind_some, there]
  rfl

theorem alert?_store (b : AlertBook) (i : Int) (a : Alert) (c : Cursor) (id : Option Int) :
    (b.store i a c).1.alert? id =
      if id = some i then some { a with id := some i, channels := [], cursor := c }
      else b.alert? id :=
  Table.bind_put ..

theorem alert?_put (b : AlertBook) (i : Int) (a : Alert) (id : Option Int) :
    ({ b with alerts := b.alerts.put i a } : AlertBook).alert? id =
      if id = some i then some a else b.alert? id :=
  Table.bind_put ..

theorem linked_store (b : AlertBook) (i : Int) (a : Alert) (c : Cursor) (id : Option Int) :
    (b.store i a c).1.linked id = b.linked id := by
  cases id with
  | none => rfl
  | some j =>
    change (Table.get? (if b.links.has i then b.links else b.links.put i []) j).getD [] =
      (b.links.get? j).getD []
    split
    · rfl
    · next absent =>
      rw [Table.get?_put]
      split
      · next hij =>
        rw [Table.has_eq_isSome, eq_of_beq hij, Option.not_isSome_iff_eq_none] at absent
        rw [absent]
        rfl
      · rfl

theorem alert?_delete (b : AlertBook) (id other : Option Int) :
    (b.delete id).1.alert? other = if other = id then none else b.alert? other := by
  cases id with
  | none => cases other <;> rfl
  | some i => exact Table.bind_erase ..

theorem linked_delete (b : AlertBook) (id other : Option Int) :
    (b.delete id).1.linked other = if other = id then [] else b.linked other := by
  cases id with
  | none => cases other <;> rfl
  | some i =>
    change (other.bind (b.links.erase i).get?).getD [] = _
    rw [Table.bind_erase]
    split <;> rfl

theorem recorded_delete (b : AlertBook) (id other : Option Int) :
    (b.delete id).1.recorded other = if other = id then [] else b.recorded other := by
  cases id with
  | none => cases other <;> rfl
  | some i =>
    change (other.bind (b.history.erase i).get?).getD [] = _
    rw [Table.bind_erase]
    split <;> rfl

theorem linked_put (b : AlertBook) (i : Int) (ids : List Int) (id : Option Int) :
    { b with links := b.links.put i ids }.linked id =
      if id = some i then ids else b.linked id := by
  rw [linked, Table.bind_put]
  split <;> rfl

theorem recorded_put (b : AlertBook) (i : Int) (rows : List History) (nextHistory : Int)
    (id : Option Int) :
    { b with history := b.history.put i rows, nextHistory }.recorded id =
      if id = some i then rows else b.recorded id := by
  rw [recorded, Table.bind_put]
  split <;> rfl

theorem linked_deleteChannel (b : AlertBook) (c : Int) (id : Option Int) :
    (b.deleteChannel (some c)).1.linked id = (b.linked id).erase c := by
  cases id with
  | none => rfl
  | some i =>
    change (Table.get? (b.links.map fun e => (e.1, e.2.erase c)) i).getD [] = _
    rw [Table.get?_map_values b.links (fun ids => ids.erase c), linked, Option.bind_some]
    cases b.links.get? i <;> rfl

/-! ### Storable books -/

/-- The first of two triggers that were recorded one after the other. -/
def Precedes (r s : History) : Prop :=
  r.triggeredAt.instant ≤ s.triggeredAt.instant ∧ r.id.getD 0 < s.id.getD 0

/-- A book that is read back when it is stored: its entries are, ids are in ascending order, and
the triggers of an alert are in the order of their times. -/
structure Storable (b : AlertBook) : Prop where
  sound : b.Sound
  alerts_ascend : b.alerts.keys.Pairwise (· < ·)
  channels_ascend : b.channels.keys.Pairwise (· < ·)
  alert : ∀ {i a}, b.alerts.get? i = some a → a.Storable ∧ a.channels = []
  channel : ∀ {i c}, b.channels.get? i = some c → c.Storable ∧ c.id = some i ∧ i < b.nextChannel
  row : ∀ {i r}, r ∈ b.rows i → r.Storable ∧ r.triggeredAt.isAware
  rows_ascend : ∀ i, (b.rows i).Pairwise Precedes

theorem storable_empty : empty.Storable where
  sound := sound_empty
  alerts_ascend := .nil
  channels_ascend := .nil
  alert h := nomatch h
  channel h := nomatch h
  row h := nomatch h
  rows_ascend _ := .nil

theorem Storable.isStorable_alertId (hb : b.Storable) {i : Int} {a : Alert}
    (h : b.alerts.get? i = some a) : (Json.int i).isStorable := by
  have hid := (hb.alert h).1.id
  rwa [hb.sound.id_eq h] at hid

theorem Storable.isStorable_channelId (hb : b.Storable) {i : Int} {c : Channel}
    (h : b.channels.get? i = some c) : (Json.int i).isStorable := by
  obtain ⟨hstored, hid, -⟩ := hb.channel h
  have hint := hstored.values (.ofInt? c.id) (by simp)
  rwa [hid] at hint

/-- Keys stay in ascending order if a new key is greater than all of them. -/
theorem ascend_put {α : Type} {t : Table Int α} (h : t.keys.Pairwise (· < ·)) {i : Int} (x : α)
    (place : t.get? i = none → ∀ j ∈ t.keys, j < i) : (t.put i x).keys.Pairwise (· < ·) := by
  rw [Table.keys_put]
  split
  · exact h
  · next absent =>
    rw [Table.has_eq_isSome, Option.not_isSome_iff_eq_none] at absent
    refine List.pairwise_append.mpr ⟨h, List.pairwise_singleton _ _, fun j hj k hk => ?_⟩
    rw [List.mem_singleton.mp hk]
    exact place absent j hj

theorem Storable.store (hb : b.Storable) {i : Int} {a : Alert} {c : Cursor}
    (given : i < b.nextAlert) (place : b.alerts.get? i = none → ∀ j ∈ b.alerts.keys, j < i)
    (ha : Alert.Storable { a with id := some i, channels := [], cursor := c }) :
    (b.store i a c).1.Storable where
  sound := hb.sound.store a c given
  alerts_ascend := ascend_put hb.alerts_ascend _ place
  channels_ascend := hb.channels_ascend
  alert h := by
    rw [get?_store] at h
    split at h
    · exact Option.some.inj h ▸ ⟨ha, rfl⟩
    · exact hb.alert h
  channel := hb.channel
  row := hb.row
  rows_ascend := hb.rows_ascend

/-- A new alert is stored after all others. -/
theorem Storable.save_new (hb : b.Storable) {a : Alert} (h : a.id = none)
    (settings : a.settings.Storable) (cursor : a.cursor.Storable)
    (next : (Json.int b.nextAlert).isStorable) (resetBaseline : Bool) :
    (b.save a resetBaseline).1.Storable := by
  have hsound := hb.sound.save_new h resetBaseline
  rw [AlertBook.save_new h] at hsound ⊢
  exact
    { sound := hsound
      alerts_ascend := ascend_put hb.alerts_ascend _ fun _ j hj =>
        let ⟨_, ha⟩ := Option.isSome_iff_exists.mp (Table.mem_keys.mp hj)
        hb.sound.id_lt ha
      channels_ascend := hb.channels_ascend
      alert := fun {i a'} ha' => by
        rw [get?_store] at ha'
        split at ha'
        · exact Option.some.inj ha' ▸ ⟨⟨next, settings, cursor⟩, rfl⟩
        · exact hb.alert ha'
      channel := hb.channel
      row := hb.row
      rows_ascend := hb.rows_ascend }

theorem Storable.save_old (hb : b.Storable) {a current : Alert} {i : Int} (h : a.id = some i)
    (there : b.alerts.get? i = some current) (settings : a.settings.Storable)
    (cursor : a.cursor.Storable) (resetBaseline : Bool) :
    (b.save a resetBaseline).1.Storable := by
  obtain ⟨stored, -⟩ := hb.alert there
  rw [AlertBook.save_old h]
  refine hb.store (hb.sound.id_lt there) (fun absent => ?_)
    ⟨hb.isStorable_alertId there, settings, ?_⟩
  · rw [there] at absent
    cases absent
  · change (b.cursorFor i a resetBaseline).Storable
    rw [cursorFor, there]
    cases resetBaseline
    · exact stored.cursor
    · exact cursor

theorem Storable.delete (hb : b.Storable) (id : Option Int) : (b.delete id).1.Storable := by
  cases id with
  | none => exact hb
  | some i =>
    refine ⟨hb.sound.delete (some i), ?_, hb.channels_ascend, fun h => ?_, hb.channel, fun h => ?_,
      fun j => ?_⟩
    · exact (Table.keys_erase b.alerts i).symm ▸ hb.alerts_ascend.filter _
    · rw [get?_delete] at h
      split at h
      · cases h
      · exact hb.alert h
    · rw [rows_delete] at h
      split at h
      · cases h
      · exact hb.row h
    · rw [rows_delete]
      split
      · exact .nil
      · exact hb.rows_ascend j

/-- Links have no part in whether a book can be stored. -/
theorem Storable.setLinks (hb : b.Storable) (links : Table Int (List Int)) :
    { b with links }.Storable where
  sound := hb.sound.congr rfl rfl rfl rfl
  alerts_ascend := hb.alerts_ascend
  channels_ascend := hb.channels_ascend
  alert := hb.alert
  channel := hb.channel
  row := hb.row
  rows_ascend := hb.rows_ascend

theorem Storable.updateCursor (hb : b.Storable) {i : Int} {a : Alert}
    (there : b.alerts.get? i = some a) {u : Cursor} (hu : u.Storable) :
    (b.updateCursor (some i) u).1.Storable := by
  have hsound := hb.sound.updateCursor (some i) u
  obtain ⟨stored, hchannels⟩ := hb.alert there
  rw [updateCursor_ok there] at hsound ⊢
  refine ⟨hsound, ascend_put hb.alerts_ascend _ fun absent => ?_, hb.channels_ascend, fun h => ?_,
    hb.channel, hb.row, hb.rows_ascend⟩
  · rw [there] at absent
    cases absent
  · rw [Table.get?_put] at h
    split at h
    · rw [← Option.some.inj h]
      exact ⟨⟨stored.id, stored.settings, stored.cursor.write (hu.changes _)⟩, hchannels⟩
    · exact hb.alert h

/-- A trigger that is not earlier than the ones before it is recorded after them. -/
theorem Storable.createHistory (hb : b.Storable) {i : Int} (there : (b.alerts.get? i).isSome)
    (type : AlertType) {data notifications : Json} {time : Moment}
    (hrow : (b.nextRow i type data notifications time).Storable) (aware : time.isAware)
    (later : ∀ r ∈ b.rows i, r.triggeredAt.instant ≤ time.instant) :
    (b.createHistory (some i) (.str type.name) data notifications time).1.Storable := by
  have hsound := hb.sound.createHistory type data notifications time there
  have hrows := rows_createHistory type data notifications time there
  rw [createHistory_ok type data notifications time there] at hsound hrows ⊢
  refine ⟨hsound, hb.alerts_ascend, hb.channels_ascend, hb.alert, hb.channel, fun {j r} hr => ?_,
    fun j => ?_⟩
  · rw [hrows] at hr
    split at hr
    · rcases List.mem_append.mp hr with hr | hr
      · exact hb.row hr
      · exact List.mem_singleton.mp hr ▸ ⟨hrow, aware⟩
    · exact hb.row hr
  · rw [hrows]
    split
    · refine List.pairwise_append.mpr
        ⟨hb.rows_ascend i, List.pairwise_singleton _ _, fun r hr s hs => ?_⟩
      obtain ⟨n, hn, lt⟩ := hb.sound.row_lt hr
      rw [List.mem_singleton.mp hs, Precedes, hn]
      exact ⟨later r hr, lt⟩
    · exact hb.rows_ascend j

theorem Storable.setChannels (hb : b.Storable) {channels : Table Int Channel} {nextChannel : Int}
    (ascend : channels.keys.Pairwise (· < ·))
    (channel : ∀ {i c}, channels.get? i = some c → c.Storable ∧ c.id = some i ∧ i < nextChannel) :
    { b with channels, nextChannel }.Storable where
  sound := hb.sound.congr rfl rfl rfl rfl
  alerts_ascend := hb.alerts_ascend
  channels_ascend := ascend
  alert := hb.alert
  channel := channel
  row := hb.row
  rows_ascend := hb.rows_ascend

/-- A new channel is stored after all others. -/
theorem Storable.saveChannel_new (hb : b.Storable) {c : Channel} (h : c.id = none)
    (hc : c.Storable) (next : (Json.int b.nextChannel).isStorable) :
    (b.saveChannel c).1.Storable := by
  rw [saveChannel, h]
  refine hb.setChannels (ascend_put hb.channels_ascend _ fun _ j hj => ?_) fun {i c'} hc' => ?_
  · obtain ⟨c', hc'⟩ := Option.isSome_iff_exists.mp (Table.mem_keys.mp hj)
    exact (hb.channel hc').2.2
  · rw [Table.get?_put] at hc'
    split at hc'
    · next hi =>
      rw [← Option.some.inj hc', ← eq_of_beq hi]
      exact ⟨hc.setId next, rfl, Int.lt_succ _⟩
    · obtain ⟨stored, hid, lt⟩ := hb.channel hc'
      exact ⟨stored, hid, Int.lt_trans lt (Int.lt_succ _)⟩

theorem Storable.saveChannel_old (hb : b.Storable) {c : Channel} {i : Int} (h : c.id = some i)
    (there : (b.channels.get? i).isSome) (hc : c.Storable) : (b.saveChannel c).1.Storable := by
  obtain ⟨current, hcurrent⟩ := Option.isSome_iff_exists.mp there
  rw [saveChannel, h]
  refine hb.setChannels (ascend_put hb.channels_ascend _ fun absent => ?_) fun {j c'} hc' => ?_
  · rw [absent] at there
    cases there
  · rw [Table.get?_put] at hc'
    split at hc'
    · next hij =>
      rw [← Option.some.inj hc', ← eq_of_beq hij]
      exact ⟨hc, h, (hb.channel hcurrent).2.2⟩
    · exact hb.channel hc'

theorem Storable.deleteChannel (hb : b.Storable) (id : Option Int) :
    (b.deleteChannel id).1.Storable := by
  cases id with
  | none => exact hb
  | some i =>
    have erased : ({ b with channels := b.channels.erase i } : AlertBook).Storable := by
      refine hb.setChannels ?_ fun h => ?_
      · exact (Table.keys_erase b.channels i).symm ▸ hb.channels_ascend.filter _
      · rw [Table.get?_erase] at h
        split at h
        · cases h
        · exact hb.channel h
    exact erased.setLinks _

/-! ### Triggers in order -/

/-- Triggers of one alert that are not earlier than each other are the same. -/
theorem eq_of_notEarlier {rows : List History} (ascend : rows.Pairwise Precedes) {r s : History}
    (hr : r ∈ rows) (hs : s ∈ rows) (h₁ : notEarlier r s) (h₂ : notEarlier s r) : r = s := by
  have hids : rows.Pairwise fun r s => r.id.getD 0 ≠ s.id.getD 0 :=
    ascend.imp fun h => Int.ne_of_lt h.2
  have : Std.Symm fun r s : History => r.id.getD 0 ≠ s.id.getD 0 := ⟨fun _ _ => Ne.symm⟩
  by_contra hne
  have hid := hids.forall hr hs hne
  simp only [notEarlier, Bool.or_eq_true, Bool.and_eq_true, decide_eq_true_iff, beq_iff_eq]
    at h₁ h₂
  omega

/-- Triggers in ascending order are sorted by turning them round. -/
theorem mergeSort_notEarlier {rows : List History} (ascend : rows.Pairwise Precedes) :
    rows.mergeSort notEarlier = rows.reverse := by
  have sorted : (rows.mergeSort notEarlier).Pairwise fun r s => notEarlier r s = true := by
    refine List.pairwise_mergeSort (fun r s t => ?_) (fun r s => ?_) rows
    · simp only [notEarlier, Bool.or_eq_true, Bool.and_eq_true, decide_eq_true_iff, beq_iff_eq]
      omega
    · simp only [notEarlier, Bool.or_eq_true, Bool.and_eq_true, decide_eq_true_iff, beq_iff_eq]
      omega
  have reversed : rows.reverse.Pairwise fun r s => notEarlier r s = true := by
    refine List.pairwise_reverse.mpr (ascend.imp fun {r s} h => ?_)
    obtain ⟨htime, hid⟩ := h
    simp only [notEarlier, Bool.or_eq_true, Bool.and_eq_true, decide_eq_true_iff, beq_iff_eq]
    omega
  refine List.Perm.eq_of_pairwise (fun r s hr hs => ?_) sorted reversed
    ((List.mergeSort_perm rows _).trans rows.reverse_perm.symm)
  exact eq_of_notEarlier ascend (List.mem_mergeSort.mp hr) (List.mem_reverse.mp hs)

/-- The latest triggers are those that were recorded last, if their times compare and ascend. -/
theorem listHistory_of_ascend {id : Option Int} (ascend : (b.recorded id).Pairwise Precedes)
    (comparable : ∀ r ∈ b.recorded id, ∀ s ∈ b.recorded id,
      r.triggeredAt.comparable s.triggeredAt) {limit : Int} (nonneg : 0 ≤ limit) :
    b.listHistory id limit = .ok ((b.recorded id).reverse.take limit.toNat) := by
  have all : ((b.recorded id).all fun r => (b.recorded id).all fun s =>
      r.triggeredAt.comparable s.triggeredAt) = true :=
    List.all_eq_true.mpr fun r hr => List.all_eq_true.mpr fun s hs => comparable r hr s hs
  change (if ((b.recorded id).all fun r => (b.recorded id).all fun s =>
    r.triggeredAt.comparable s.triggeredAt) then
      Except.ok (Slice.upTo limit ((b.recorded id).mergeSort notEarlier)) else _) = _
  rw [if_pos all, mergeSort_notEarlier ascend, Slice.upTo, Slice.place,
    if_neg (Int.not_lt.mpr nonneg), ← List.take_eq_take_min]

/-- **The latest triggers are those that were recorded last.** -/
theorem Storable.listHistory_eq (hb : b.Storable) (id : Option Int) {limit : Int}
    (pos : 1 ≤ limit) :
    b.listHistory id limit = .ok ((b.recorded id).reverse.take limit.toNat) := by
  cases id with
  | none => exact listHistory_of_ascend .nil (List.forall_mem_nil _) (by omega)
  | some i =>
    have ascend : (b.recorded (some i)).Pairwise Precedes := hb.rows_ascend i
    refine listHistory_of_ascend ascend (fun r hr s hs => ?_) (by omega)
    rw [Moment.comparable, (hb.row hr).2, (hb.row hs).2]
    rfl

end AlertBook

end LogAlert
