import LogAlert.Proofs.Book
import LogAlert.Proofs.Records

/-!
# Stores that requests lead to

A log store comes from the empty one by storing records, and a book from the empty one by any
requests, valid or not, whoever makes them.  All that such a book has in common is that it keeps
every alert once and under its own id; the ids of such a log store are positive and ascend.

## Main definitions

* `LogStore.Reachable`, `AlertBook.Reachable` : the stores that requests lead to.
* `AlertBook.Keyed` : every alert is kept once, under its own id.

## Main results

* `LogStore.Reachable.sound` : the ids of a log store ascend.
* `AlertBook.Keyed.answer`, `AlertBook.Reachable.keyed` : no request makes a book keep an alert
  twice or under another id.
-/

namespace LogAlert

/-! ### Log stores -/

namespace LogStore

/-- The log stores that come from the empty one by storing records with or without an id. -/
inductive Reachable : LogStore → Prop where
  | empty : Reachable .empty
  | add {s s' : LogStore} (reachable : Reachable s) {r : Record} (added : s.add r = .ok s') :
      Reachable s'
  | append {s : LogStore} (reachable : Reachable s) (source message level : String)
      (timestamp : Moment) (metadata : Json.Fields) :
      Reachable (s.append source message level timestamp metadata).1

/-- A record is stored after those that are there. -/
theorem extends_of_add {s s' : LogStore} {r : Record} (h : s.add r = .ok s') : s.Extends s' := by
  rw [add] at h
  split at h
  · cases h
  · next newer =>
    obtain rfl := Except.ok.inj h
    exact .added r (Int.not_lt.mp newer)

theorem Reachable.sound {s : LogStore} (h : s.Reachable) : s.Sound := by
  induction h with
  | empty => exact sound_empty
  | add _ added ih => exact ih.extends (extends_of_add added)
  | @append s _ source message level timestamp metadata ih =>
    exact ih.extends (.added (s.newRecord source message level timestamp metadata) (Int.le_refl _))

end LogStore

/-! ### Books -/

namespace AlertBook

/-- Every alert is kept once, under its own id. -/
structure Keyed (b : AlertBook) : Prop where
  nodup : b.alerts.keys.Nodup
  id_eq : ∀ {i a}, b.alerts.get? i = some a → a.id = some i

/-- The books that come from the empty one by requests. -/
inductive Reachable : AlertBook → Prop where
  | empty : Reachable .empty
  | answer {b : AlertBook} (reachable : Reachable b) (r : AlertRequest) : Reachable (b.answer r).2

variable {b : AlertBook}

theorem keyed_empty : empty.Keyed where
  nodup := List.nodup_nil
  id_eq h := nomatch h

theorem Sound.keyed (hb : b.Sound) : b.Keyed :=
  ⟨hb.nodup, hb.id_eq⟩

/-- An alert is written under its own id. -/
theorem Keyed.put (hb : b.Keyed) {i : Int} {a : Alert} (id : a.id = some i) :
    { b with alerts := b.alerts.put i a }.Keyed where
  nodup := Table.nodup_keys_put hb.nodup ..
  id_eq h := by
    rw [Table.get?_put] at h
    split at h
    · next hij => rw [← Option.some.inj h, id, eq_of_beq hij]
    · exact hb.id_eq h

theorem Keyed.erase (hb : b.Keyed) (i : Int) : { b with alerts := b.alerts.erase i }.Keyed where
  nodup := Table.nodup_keys_erase hb.nodup i
  id_eq h := by
    rw [Table.get?_erase] at h
    split at h
    · cases h
    · exact hb.id_eq h

/-- Channels, links and triggers have no part in it. -/
theorem Keyed.congr {b' : AlertBook} (hb : b.Keyed) (alerts : b'.alerts = b.alerts) : b'.Keyed := by
  obtain ⟨nodup, id_eq⟩ := hb
  constructor
  · rwa [alerts]
  · rwa [alerts]

theorem Keyed.store (hb : b.Keyed) (i : Int) (a : Alert) (c : Cursor) : (b.store i a c).1.Keyed :=
  (hb.put (a := { a with id := some i, channels := [], cursor := c }) rfl).congr rfl

theorem Keyed.save (hb : b.Keyed) (a : Alert) (resetBaseline : Bool) :
    (b.save a resetBaseline).1.Keyed := by
  rw [AlertBook.save]
  split
  · have counted : { b with nextAlert := b.nextAlert + 1 }.Keyed := hb.congr rfl
    exact counted.store ..
  · exact hb.store ..

theorem Keyed.updateCursor (hb : b.Keyed) (id : Option Int) (u : Cursor) :
    (b.updateCursor id u).1.Keyed := by
  rw [AlertBook.updateCursor]
  split
  · exact hb
  · next i a found =>
    obtain ⟨j, rfl, hj⟩ := Option.bind_eq_some_iff.mp found
    obtain ⟨a', stored, heq⟩ := Option.map_eq_some_iff.mp hj
    obtain ⟨rfl, rfl⟩ := Prod.mk.inj heq
    exact hb.put (hb.id_eq stored :)

/-- **No request** makes a book keep an alert twice or under another id. -/
theorem Keyed.answer (hb : b.Keyed) (r : AlertRequest) : (b.answer r).2.Keyed := by
  cases r with
  | listEnabled | listAlerts | get | listHistory | getChannel | listChannels => exact hb
  | save a resetBaseline => exact hb.save a resetBaseline
  | delete id =>
    cases id with
    | none => exact hb
    | some i => exact (hb.erase i).congr rfl
  | setChannels id channelIds =>
    refine hb.congr ?_
    change (b.setChannels id channelIds).1.alerts = b.alerts
    rw [setChannels]
    split <;> rfl
  | updateCursor a u => exact hb.updateCursor a.id u
  | createHistory a type data notifications time =>
    exact hb.congr (alerts_createHistory b a.id type data notifications time)
  | saveChannel c =>
    refine hb.congr ?_
    change (b.saveChannel c).1.alerts = b.alerts
    rw [saveChannel]
    split <;> rfl
  | deleteChannel id =>
    cases id with
    | none => exact hb
    | some i => exact hb.congr rfl

theorem Reachable.keyed (h : b.Reachable) : b.Keyed := by
  induction h with
  | empty => exact keyed_empty
  | answer _ r ih => exact ih.answer r

end AlertBook

end LogAlert
