import LogAlert.Alert.Book
import LogAlert.Proofs.Table

/-!
# What a book holds after a request

A book is read through the alert under an id and the triggers recorded of it.  Every request of
an alert store changes these two for one id at most.

## Main definitions

* `AlertBook.rows` : the triggers recorded of an alert.
* `AlertBook.Sound` : the ids under which a book keeps alerts and triggers fit together.

## Main results

* `AlertBook.get?_store`, `AlertBook.get?_delete`, `AlertBook.get?_updateCursor`,
  `AlertBook.rows_createHistory`, … : the alert and the triggers of any id after a request.
* `AlertBook.Sound.store`, `AlertBook.Sound.delete`, … : no request leaves a book unsound.
-/

namespace LogAlert

namespace Cursor

@[simp] theorem advance_empty (c : Cursor) : c.advance .empty = c := by
  obtain ⟨seen, triggered, checked⟩ := c
  rfl

@[simp] theorem lastTriggered_advance (c u : Cursor) :
    (c.advance u).lastTriggered = u.lastTriggered.or c.lastTriggered := rfl

theorem lastSeen_advance_none {u : Cursor} (c : Cursor) (h : u.lastSeen = none) :
    (c.advance u).lastSeen = c.lastSeen := by
  simp [advance, write, changes, h]

/-- A record seen that is not older than the stored one takes its place. -/
theorem lastSeen_advance_of_le {c u : Cursor} {n : Int} (h : u.lastSeen = some n)
    (newer : ∀ m, c.lastSeen = some m → m ≤ n) : (c.advance u).lastSeen = some n := by
  cases hc : c.lastSeen with
  | none => simp [advance, write, changes, h, hc]
  | some m =>
    have hm := newer m hc
    simp [advance, write, changes, h, hc, Option.filter_some, hm]

/-- A later record takes the place of the one seen. -/
theorem advance_seen {c : Cursor} {n : Int} (later : ∀ seen ∈ c.lastSeen, seen < n)
    (triggered checked : Option Moment) :
    c.advance ⟨some n, triggered, checked⟩ =
      ⟨some n, triggered.or c.lastTriggered, checked.or c.lastChecked⟩ := by
  have hseen : (c.advance ⟨some n, triggered, checked⟩).lastSeen = some n :=
    lastSeen_advance_of_le rfl fun m hm => Int.le_of_lt (later m hm)
  exact congrArg (fun seen => Cursor.mk seen _ _) hseen

end Cursor

namespace AlertBook

/-- The triggers recorded of an alert, in the order in which they were recorded. -/
def rows (b : AlertBook) (id : Int) : List History :=
  (b.history.get? id).getD []

/-- The ids of a book fit together: an alert is kept once, under its own id, ids are given in
ascending order, and only alerts that are there have triggers. -/
structure Sound (b : AlertBook) : Prop where
  nodup : b.alerts.keys.Nodup
  id_eq : ∀ {i a}, b.alerts.get? i = some a → a.id = some i
  id_lt : ∀ {i a}, b.alerts.get? i = some a → i < b.nextAlert
  rows_nil : ∀ {i}, b.alerts.get? i = none → b.rows i = []
  row_lt : ∀ {i r}, r ∈ b.rows i → ∃ n, r.id = some n ∧ n < b.nextHistory

theorem sound_empty : empty.Sound where
  nodup := List.nodup_nil
  id_eq h := nomatch h
  id_lt h := nomatch h
  rows_nil _ := rfl
  row_lt h := nomatch h

variable {b : AlertBook}

/-- The next id is not in use. -/
theorem Sound.get?_nextAlert (hb : b.Sound) : b.alerts.get? b.nextAlert = none := by
  cases h : b.alerts.get? b.nextAlert with
  | none => rfl
  | some a => exact absurd (hb.id_lt h) (Int.lt_irrefl _)

/-- Channels and links have no part in the soundness of a book. -/
theorem Sound.congr {b' : AlertBook} (hb : b.Sound) (alerts : b'.alerts = b.alerts)
    (history : b'.history = b.history) (nextAlert : b'.nextAlert = b.nextAlert)
    (nextHistory : b'.nextHistory = b.nextHistory) : b'.Sound := by
  have hrows : b'.rows = b.rows := by
    funext i
    rw [rows, rows, history]
  obtain ⟨h₁, h₂, h₃, h₄, h₅⟩ := hb
  constructor
  · rwa [alerts]
  · rwa [alerts]
  · rwa [alerts, nextAlert]
  · rwa [alerts, hrows]
  · rwa [hrows, nextHistory]

/-! ### Settings -/

theorem get?_store (b : AlertBook) (i j : Int) (a : Alert) (c : Cursor) :
    (b.store i a c).1.alerts.get? j =
      if i == j then some { a with id := some i, channels := [], cursor := c }
      else b.alerts.get? j :=
  Table.get?_put ..

@[simp] theorem rows_store (b : AlertBook) (i : Int) (a : Alert) (c : Cursor) :
    (b.store i a c).1.rows = b.rows := rfl

/-- Storing keeps a book sound if the id was given before. -/
theorem Sound.store (hb : b.Sound) {i : Int} (a : Alert) (c : Cursor) (given : i < b.nextAlert) :
    (b.store i a c).1.Sound where
  nodup := Table.nodup_keys_put hb.nodup ..
  id_eq h := by
    rw [get?_store] at h
    split at h
    · next hij =>
      rw [← Option.some.inj h, eq_of_beq hij]
    · exact hb.id_eq h
  id_lt h := by
    rw [get?_store] at h
    split at h
    · next hij => exact eq_of_beq hij ▸ given
    · exact hb.id_lt h
  rows_nil h := by
    rw [get?_store] at h
    split at h
    · cases h
    · exact hb.rows_nil h
  row_lt := hb.row_lt

/-- A new alert is stored under the next id. -/
theorem save_new {a : Alert} (h : a.id = none) (resetBaseline : Bool) :
    b.save a resetBaseline =
      { b with nextAlert := b.nextAlert + 1 }.store b.nextAlert a a.cursor := by
  rw [save, h]

/-- An alert with an id is stored under it. -/
theorem save_old {a : Alert} {i : Int} (h : a.id = some i) (resetBaseline : Bool) :
    b.save a resetBaseline = b.store i a (b.cursorFor i a resetBaseline) := by
  rw [save, h]

theorem Sound.save_new (hb : b.Sound) {a : Alert} (h : a.id = none) (resetBaseline : Bool) :
    (b.save a resetBaseline).1.Sound := by
  rw [AlertBook.save_new h]
  refine Sound.store (b := { b with nextAlert := b.nextAlert + 1 }) ⟨hb.nodup, hb.id_eq,
    fun hi => ?_, hb.rows_nil, hb.row_lt⟩ a _ (Int.lt_succ b.nextAlert)
  exact Int.lt_trans (hb.id_lt hi) (Int.lt_succ b.nextAlert)

/-! ### Removal -/

theorem get?_delete (b : AlertBook) (i j : Int) :
    (b.delete (some i)).1.alerts.get? j = if i == j then none else b.alerts.get? j :=
  Table.get?_erase ..

theorem rows_delete (b : AlertBook) (i j : Int) :
    (b.delete (some i)).1.rows j = if i == j then [] else b.rows j := by
  unfold rows delete
  rw [Table.get?_erase]
  split <;> rfl

theorem Sound.delete (hb : b.Sound) (id : Option Int) : (b.delete id).1.Sound := by
  cases id with
  | none => exact hb
  | some i =>
    refine ⟨Table.nodup_keys_erase hb.nodup i, fun h => ?_, fun h => ?_, fun h => ?_,
      fun h => ?_⟩
    · rw [get?_delete] at h
      split at h
      · cases h
      · exact hb.id_eq h
    · rw [get?_delete] at h
      split at h
      · cases h
      · exact hb.id_lt h
    · rw [get?_delete] at h
      rw [rows_delete]
      split at h
      · next hij => rw [if_pos hij]
      · next hij =>
        rw [if_neg hij]
        exact hb.rows_nil h
    · rw [rows_delete] at h
      split at h
      · cases h
      · exact hb.row_lt h

/-! ### Links and channels -/

/-- Linking an alert that is there does not fail. -/
theorem setChannels_ok {i : Int} (h : (b.alerts.get? i).isSome) (channelIds : List Int) :
    b.setChannels (some i) channelIds =
      ({ b with links := b.links.put i (channelIds.eraseDups.filter b.channels.has) }, .ok ()) := by
  rw [← Table.has_eq_isSome] at h
  rw [setChannels, Option.filter_some, if_pos h]

/-! ### Progress -/

theorem updateCursor_ok {i : Int} {a : Alert} (h : b.alerts.get? i = some a) (u : Cursor) :
    b.updateCursor (some i) u =
      ({ b with alerts := b.alerts.put i { a with cursor := a.cursor.advance u } },
        .ok (b.load { a with cursor := a.cursor.advance u })) := by
  rw [updateCursor, Option.bind_some, h]
  rfl

theorem get?_updateCursor (b : AlertBook) (i j : Int) (u : Cursor) :
    (b.updateCursor (some i) u).1.alerts.get? j =
      if i == j then (b.alerts.get? i).map fun a => { a with cursor := a.cursor.advance u }
      else b.alerts.get? j := by
  cases h : b.alerts.get? i with
  | some a =>
    rw [updateCursor_ok h, Table.get?_put]
    rfl
  | none =>
    have hsame : b.updateCursor (some i) u = (b, .error (noSuchAlert (some i))) := by
      rw [updateCursor, Option.bind_some, h]
      rfl
    rw [hsame]
    split
    · next hij =>
      rw [← eq_of_beq hij, h]
      rfl
    · rfl

@[simp] theorem rows_updateCursor (b : AlertBook) (id : Option Int) (u : Cursor) :
    (b.updateCursor id u).1.rows = b.rows := by
  rw [updateCursor]
  split <;> rfl

theorem Sound.updateCursor (hb : b.Sound) (id : Option Int) (u : Cursor) :
    (b.updateCursor id u).1.Sound := by
  rw [AlertBook.updateCursor]
  split
  · exact hb
  · next i a h =>
    obtain ⟨i', rfl, ha⟩ : ∃ i', id = some i' ∧ b.alerts.get? i' = some a ∧ i' = i := by
      cases id with
      | none => cases h
      | some i' =>
        obtain ⟨a', ha', h⟩ := Option.map_eq_some_iff.mp h
        obtain ⟨rfl, rfl⟩ := Prod.mk.inj h
        exact ⟨i', rfl, ha', rfl⟩
    obtain ⟨ha, rfl⟩ := ha
    refine ⟨Table.nodup_keys_put hb.nodup .., fun h => ?_, fun h => ?_, fun h => ?_, hb.row_lt⟩
    · rw [Table.get?_put] at h
      split at h
      · next hij =>
        rw [← Option.some.inj h, ← eq_of_beq hij]
        exact (hb.id_eq ha :)
      · exact hb.id_eq h
    · rw [Table.get?_put] at h
      split at h
      · next hij => exact eq_of_beq hij ▸ hb.id_lt ha
      · exact hb.id_lt h
    · rw [Table.get?_put] at h
      split at h
      · cases h
      · exact hb.rows_nil h

/-! ### Triggers -/

/-- The trigger that is recorded next. -/
def nextRow (b : AlertBook) (i : Int) (type : AlertType) (data notifications : Json)
    (time : Moment) : History :=
  { id := some b.nextHistory, alertId := some i, type, data, notifications, triggeredAt := time }

variable (type : AlertType) (data notifications : Json) (time : Moment)

@[simp] theorem AlertType_ofJson_name : AlertType.ofJson (.str type.name) = .ok type := by
  cases type <;> rfl

/-- A trigger of an alert that is there is recorded after the earlier ones. -/
theorem createHistory_ok {i : Int} (h : (b.alerts.get? i).isSome) :
    b.createHistory (some i) (.str type.name) data notifications time =
      ({ b with
          history := b.history.put i (b.rows i ++ [b.nextRow i type data notifications time])
          nextHistory := b.nextHistory + 1 },
        .ok (b.nextRow i type data notifications time)) := by
  rw [← Table.has_eq_isSome] at h
  rw [createHistory, Option.filter_some, if_pos h, AlertType_ofJson_name]
  rfl

theorem rows_createHistory {i : Int} (h : (b.alerts.get? i).isSome) (j : Int) :
    (b.createHistory (some i) (.str type.name) data notifications time).1.rows j =
      if i == j then b.rows i ++ [b.nextRow i type data notifications time] else b.rows j := by
  rw [createHistory_ok type data notifications time h, rows, Table.get?_put]
  split <;> rfl

theorem alerts_createHistory (b : AlertBook) (id : Option Int) (type data notifications : Json)
    (time : Moment) : (b.createHistory id type data notifications time).1.alerts = b.alerts := by
  rw [createHistory]
  split
  · rfl
  · split <;> rfl

theorem Sound.createHistory (hb : b.Sound) {i : Int} (h : (b.alerts.get? i).isSome) :
    (b.createHistory (some i) (.str type.name) data notifications time).1.Sound := by
  have hrows := rows_createHistory type data notifications time h
  rw [createHistory_ok type data notifications time h] at hrows ⊢
  refine ⟨hb.nodup, hb.id_eq, hb.id_lt, fun {j} hj => ?_, fun {j r} hr => ?_⟩
  · rw [hrows]
    split
    · next hij =>
      rw [eq_of_beq hij] at h
      exact absurd (hj ▸ h : Option.isSome none = true) Bool.false_ne_true
    · exact hb.rows_nil hj
  · have hold : ∀ {k : Int} {r : History}, r ∈ b.rows k →
        ∃ n, r.id = some n ∧ n < b.nextHistory + 1 := fun hr =>
      let ⟨n, hn, lt⟩ := hb.row_lt hr
      ⟨n, hn, Int.lt_trans lt (Int.lt_succ b.nextHistory)⟩
    rw [hrows] at hr
    split at hr
    · rcases List.mem_append.mp hr with hr | hr
      · exact hold hr
      · rw [List.mem_singleton.mp hr]
        exact ⟨b.nextHistory, rfl, Int.lt_succ b.nextHistory⟩
    · exact hold hr

end AlertBook

end LogAlert
