import LogAlert.Proofs.MirrorWrites

/-!
# Progress keeps a mirror

The two writes of an evaluation, of a cursor and of a trigger, on data that mirror a book.  Both
fail in the same way as the book when the alert is not there, and otherwise leave data that mirror
the book after the write.

## Main results

* `AlertStore.ends_updateCursor`, `AlertStore.ends_updateCursor_absent` : moving a cursor.
* `AlertStore.ends_createHistory`, `AlertStore.ends_createHistory_absent` : recording a trigger.
-/

namespace LogAlert

open KeyValue AlertStore
open Simulation.Server

namespace Cursor

/-- Under each key the changes are read, and where there are none what was stored before. -/
theorem get?_encode_write (stored changes : Cursor) {key : String} (hkey : key ∈ keys) :
    (stored.write changes).encode.get? key =
      (changes.encode.get? key).or (stored.encode.get? key) := by
  obtain ⟨seen, triggered, checked⟩ := get?_encode (stored.write changes)
  obtain ⟨seen₁, triggered₁, checked₁⟩ := get?_encode changes
  obtain ⟨seen₂, triggered₂, checked₂⟩ := get?_encode stored
  simp only [keys, List.mem_cons, List.not_mem_nil, or_false] at hkey
  rcases hkey with rfl | rfl | rfl
  · rw [seen, seen₁, seen₂, ← Option.map_or]
    rfl
  · rw [triggered, triggered₁, triggered₂, ← Option.map_or]
    rfl
  · rw [checked, checked₁, checked₂, ← Option.map_or]
    rfl

theorem write_of_isEmpty (stored : Cursor) {changes : Cursor} (h : changes.isEmpty) :
    stored.write changes = stored := by
  obtain ⟨seen, triggered, checked⟩ := changes
  cases seen <;> cases triggered <;> cases checked <;> first | rfl | cases h

end Cursor

namespace AlertBook

variable {b : AlertBook} {s : Slot} {x : Option Stored}

/-- A change of the cursor of an alert concerns the slot of the cursor alone. -/
theorem Fits.setCursor (h : b.Fits s x) {i : Int} {a : Alert} (there : b.alerts.get? i = some a)
    {c : Cursor} (other : s ≠ .cursor (some i)) :
    ({ b with alerts := b.alerts.put i { a with cursor := c } } : AlertBook).Fits s x := by
  cases s with
  | alerts =>
    change x = idSet (b.alerts.put i _).keys
    rw [Table.keys_put, Table.has_eq_isSome, there]
    exact h
  | alert id =>
    rw [Fits, alert?_put]
    split
    · next hid =>
      rw [hid, Fits, alert?, Option.bind_some, there] at h
      exact h
    · exact h
  | cursor id =>
    rw [Fits, cursor, alert?_put, if_neg fun heq => other (congrArg _ heq)]
    exact h
  | _ => exact h

/-- A new trigger concerns the slots of the triggers of its alert and of the counter. -/
theorem Fits.record (h : b.Fits s x) {i : Int} {rows : List History}
    (other : s ∉ [.history (some i), .historyCounter]) :
    ({ b with
        history := b.history.put i rows
        nextHistory := b.nextHistory + 1 } : AlertBook).Fits s x := by
  simp only [List.mem_cons, List.not_mem_nil, or_false, not_or] at other
  cases s with
  | history id =>
    rw [Fits, recorded_put, if_neg fun heq => other.1 (congrArg _ heq)]
    exact h
  | historyCounter => exact absurd rfl other.2
  | _ => exact h

end AlertBook

namespace KeyValue.AlertStore

variable {st : AlertStore} {b : AlertBook} {db : Database}

/-! ### Whether an alert is there -/

theorem ends_checkExists (hb : b.Storable) (h : st.Mirrors b db) {i : Int} {a : Alert}
    (there : b.alerts.get? i = some a) :
    Ends (st.checkExists (some i)) db (.ok ()) db := by
  have hview : (st.view db (.alert (some i))).isSome = true := by
    have hstored := (hb.alert there).1
    obtain ⟨document, hencode, -⟩ := Alert.decode_document hstored.settings hstored.id
    rw [h (.alert (some i)), AlertBook.alert?, Option.bind_some, there, storedDocument,
      Option.bind_some, hencode]
    rfl
  exact (ends_read_has hview).bind (ends_pure ())

theorem ends_checkExists_absent (h : st.Mirrors b db) {id : Option Int}
    (absent : b.alert? id = none) :
    Ends (st.checkExists id) db (.error (noSuchAlert id)) db := by
  have hview : (st.view db (.alert id)).isSome = false := by
    rw [h (.alert id), absent]
    rfl
  exact (ends_read_has hview).bind rfl

/-! ### Moving a cursor -/

/-- Changes that are written to the entries of a cursor. -/
theorem write_changes {i : Int} {stored : Cursor} {entries : Table String String}
    (holds : HoldsEntries entries (st.view db (.cursor (some i))))
    (same : ∀ key ∈ Cursor.keys, entries.get? key = stored.encode.get? key) (changes : Cursor) :
    ∃ counts db', db.writeAll (if changes.isEmpty then []
        else [.putEntries (st.slotKey (.cursor (some i))) changes.encode]) = .ok (counts, db') ∧
      AlertBook.FitsCursor (stored.write changes) (st.view db' (.cursor (some i))) ∧
      ∀ t, t ≠ .cursor (some i) → st.view db' t = st.view db t := by
  by_cases empty : changes.isEmpty
  · rw [if_pos empty, stored.write_of_isEmpty empty]
    exact ⟨[], db, rfl, ⟨entries, holds, same⟩, fun _ _ => rfl⟩
  · obtain ⟨n, db', merged, hput, hview, hget⟩ :=
      write_putEntries holds changes.nodup_keys_encode
    rw [if_neg empty]
    refine ⟨_, db', Database.writeAll_one hput,
      ⟨merged, .inl ?_, fun key hkey => ?_⟩, fun t ht => ?_⟩
    · rw [hview, Function.update_self]
    · rw [hget, same key hkey, Cursor.get?_encode_write stored changes hkey]
    · rw [hview, Function.update_of_ne ht]

/-- The cursor of an alert that is there is moved as in the book. -/
theorem ends_updateCursor (hb : b.Storable) (h : st.Mirrors b db) (attempts : 0 < st.attempts)
    {a current : Alert} {i : Int} (hid : a.id = some i) (there : b.alerts.get? i = some current)
    (u : Cursor) :
    ∃ db', Ends (st.updateCursor a u) db
        (.ok { a with cursor := current.cursor.advance u }) db' ∧
      st.Mirrors (b.updateCursor (some i) u).1 db' := by
  obtain ⟨entries, holds, same⟩ := h (.cursor (some i))
  rw [AlertBook.cursor_eq there] at same
  obtain ⟨counts, db', hwrite, fits, hothers⟩ :=
    write_changes holds same (current.cursor.changes u)
  have hentries : Ends (.ofExcept (Cursor.decode entries)) db (.ok current.cursor) db :=
    Cursor.decode_of_get? (hb.alert there).1.cursor same ▸ ends_ofExcept _
  have htry : Ends (st.tryUpdateCursor a u) db
      (.ok { a with cursor := current.cursor.advance u }) db' := by
    rw [tryUpdateCursor, hid]
    exact (ends_watch _).bind ((ends_checkExists hb h there).bind ((ends_read_entries holds).bind
      (hentries.bind ((ends_commit hwrite).bind (ends_pure _)))))
  refine ⟨db', (ends_begins _).bind (htry.retry _ _ (by omega)), fun t => ?_⟩
  rw [AlertBook.updateCursor_ok there]
  by_cases touched : t = .cursor (some i)
  · rw [touched, AlertBook.Fits, AlertBook.cursor, AlertBook.alert?_put, if_pos rfl]
    exact fits
  · rw [hothers t touched]
    exact (h t).setCursor there touched

/-- The cursor of an alert that is not there is not moved. -/
theorem ends_updateCursor_absent (h : st.Mirrors b db) (attempts : 0 < st.attempts) {a : Alert}
    (absent : b.alert? a.id = none) (u : Cursor) :
    Ends (st.updateCursor a u) db (.error (noSuchAlert a.id)) db := by
  have htry : Ends (st.tryUpdateCursor a u) db (.error (noSuchAlert a.id)) db :=
    (ends_watch _).bind (ends_checkExists_absent h absent).bind_error
  exact (ends_begins _).bind (htry.retry_store _ _ (by omega))

/-! ### Recording a trigger -/

/-- A trigger of an alert that is there is recorded as in the book. -/
theorem ends_createHistory (hb : b.Storable) (h : st.Mirrors b db) (attempts : 0 < st.attempts)
    {a current : Alert} {i : Int} (hid : a.id = some i) (there : b.alerts.get? i = some current)
    (type : AlertType) (data notifications : Json) (time : Moment)
    (next : (Json.int b.nextHistory).isStorable) :
    ∃ db', Ends (st.createHistory a (.str type.name) data notifications time) db
        (.ok (b.nextRow i type data notifications time)) db' ∧
      st.Mirrors (b.createHistory (some i) (.str type.name) data notifications time).1 db' := by
  obtain ⟨db₁, hnext, hcounts, hothers⟩ :=
    ends_nextId (rfl : st.counterKey "history" = st.slotKey .historyCounter)
      (h .historyCounter) next
  have hrows : st.view db₁ (.history (some i)) = textList ((b.rows i).map History.encode) := by
    rw [hothers _ (by nofun)]
    exact h (.history (some i))
  obtain ⟨n, db₂, hpush, hview⟩ :=
    write_push hrows (b.nextRow i type data notifications time).encode
  have htype : Ends (.ofExcept (AlertType.ofJson (.str type.name))) db₁ (.ok type) db₁ :=
    AlertType.ofJson_name type ▸ ends_ofExcept _
  have hcommit := ends_commit (Database.writeAll_one hpush)
  have htry : Ends (st.tryCreateHistory a (.str type.name) data notifications time) db
      (.ok (b.nextRow i type data notifications time)) db₂ := by
    rw [tryCreateHistory, hid]
    exact (ends_watch _).bind ((ends_checkExists hb h there).bind (hnext.bind (htype.bind
      (hcommit.bind (ends_pure _)))))
  refine ⟨db₂, (ends_begins _).bind (htry.retry _ _ (by omega)), fun t => ?_⟩
  rw [AlertBook.createHistory_ok type data notifications time
    (Option.isSome_iff_exists.mpr ⟨current, there⟩), hview]
  by_cases hhistory : t = .history (some i)
  · rw [hhistory, Function.update_self, AlertBook.Fits, AlertBook.recorded_put, if_pos rfl,
      List.map_append]
    rfl
  · rw [Function.update_of_ne hhistory]
    by_cases hcounter : t = .historyCounter
    · exact hcounter ▸ hcounts
    · rw [hothers t hcounter]
      exact (h t).record (by simp [hhistory, hcounter])

/-- A trigger of an alert that is not there is not recorded. -/
theorem ends_createHistory_absent (h : st.Mirrors b db) (attempts : 0 < st.attempts) {a : Alert}
    (absent : b.alert? a.id = none) (type data notifications : Json) (time : Moment) :
    Ends (st.createHistory a type data notifications time) db (.error (noSuchAlert a.id)) db := by
  have htry : Ends (st.tryCreateHistory a type data notifications time) db
      (.error (noSuchAlert a.id)) db :=
    (ends_watch _).bind (ends_checkExists_absent h absent).bind_error
  exact (ends_begins _).bind (htry.retry_store _ _ (by omega))

end KeyValue.AlertStore

end LogAlert
