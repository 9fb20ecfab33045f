import LogAlert.Proofs.MirrorProgress
import LogAlert.Proofs.SharedServer

/-!
# Tidy stores

The data of an alert store are tidy if no cursor and no history is left of an alert that is gone,
the set of alerts lists the alerts that are there, and cursors hold the records seen last as
integers.  Each transaction of a store keeps its data tidy: some only together with what is known
to be there when it is applied.

## Main definitions

* `AlertStore.Tidy` : tidy data.
* `AlertStore.seen` : the record that an alert has seen last, as it is stored.
* `AlertStore.lastRow` : the last id given to a trigger.

## Main results

* `AlertStore.Tidy.store`, `AlertStore.Tidy.remove` : an alert is saved, and removed.
* `AlertStore.Tidy.putCursor`, `AlertStore.Tidy.push` : a cursor moves, and a trigger is recorded.
* `AlertStore.Tidy.aside` : other parts of the store are written.
-/

namespace LogAlert.KeyValue

/-- The record seen last in a stored cursor. -/
def seenIn : Option Stored → Option Int
  | some (.hash entries) =>
    (entries.get? "last_seen_log_id").bind fun text => Number.readInt? text.toList
  | _ => none

/-- The last id that a stored counter gave. -/
def countIn : Option Stored → Int
  | some (.text text) => (Number.readInt? text.toList).getD 0
  | _ => 0

namespace AlertStore

/-- No cursor and no history is left of an alert that is gone, the set of alerts lists the alerts
that are there, and each record seen last is an integer. -/
structure Tidy (st : AlertStore) (db : Database) : Prop where
  listed : ∃ ids : List Int, st.view db .alerts = idSet ids ∧
    ∀ id, (st.view db (.alert id)).isSome ↔ id ∈ ids.map some
  cursor : ∀ id, (st.view db (.cursor id)).isSome → (st.view db (.alert id)).isSome
  history : ∀ id, (st.view db (.history id)).isSome → (st.view db (.alert id)).isSome
  integer : ∀ id entries text, st.view db (.cursor id) = some (.hash entries) →
    entries.get? "last_seen_log_id" = some text → ∃ n, text = String.ofList (Json.intText n)

/-- The record that an alert has seen last, as it is stored. -/
def seen (st : AlertStore) (db : Database) (id : Option Int) : Option Int :=
  seenIn (st.view db (.cursor id))

theorem seen_le_refl (seen : Option Int) : seen ≤ seen := by
  cases seen <;> simp

theorem seen_le_trans {a b c : Option Int} (hab : a ≤ b) (hbc : b ≤ c) : a ≤ c := by
  cases a <;> cases b <;> cases c <;> simp_all
  exact Int.le_trans hab hbc

/-- The last id given to a trigger. -/
def lastRow (st : AlertStore) (db : Database) : Int :=
  countIn (st.view db .historyCounter)

variable {st : AlertStore} {db db' : Database}

theorem tidy_empty (st : AlertStore) : st.Tidy [] where
  listed := ⟨[], rfl, fun id => by simp [view]⟩
  cursor _ h := nomatch h
  history _ h := nomatch h
  integer _ _ _ h := nomatch h

/-! ### Writes -/

/-- The parts of a store that are neither the alerts, their cursors and their triggers nor the
counter of triggers. -/
def Slot.Aside : Slot → Prop
  | .links _ | .channels | .channel _ | .alertCounter | .channelCounter => True
  | .alerts | .alert _ | .cursor _ | .history _ | .historyCounter => False

/-- Commands that name no slot leave it alone. -/
theorem view_of_writeAll {ws : List Write} {counts : List Int}
    (h : db.writeAll ws = .ok (counts, db')) {s : Slot} (other : st.slotKey s ∉ keysOf ws) :
    st.view db' s = st.view db s :=
  Database.get?_of_writeAll h other

/-- Tidiness depends on the alerts, their cursors and their triggers alone. -/
theorem Tidy.congr (h : st.Tidy db)
    (same : ∀ s, s = .alerts ∨ (∃ id, s = .alert id ∨ s = .cursor id ∨ s = .history id) →
      st.view db' s = st.view db s) : st.Tidy db' := by
  have alert (id : Option Int) := same (.alert id) (.inr ⟨id, .inl rfl⟩)
  have cursor (id : Option Int) := same (.cursor id) (.inr ⟨id, .inr (.inl rfl)⟩)
  have history (id : Option Int) := same (.history id) (.inr ⟨id, .inr (.inr rfl)⟩)
  constructor
  · simpa only [same .alerts (.inl rfl), alert] using h.listed
  · simpa only [cursor, alert] using h.cursor
  · simpa only [history, alert] using h.history
  · simpa only [cursor] using h.integer

theorem slotKey_mem {s : Slot} {slots : List Slot} :
    st.slotKey s ∈ slots.map st.slotKey ↔ s ∈ slots :=
  List.mem_map_of_injective fun _ _ => slotKey_inj.mp

/-- Other parts of the store are written. -/
theorem Tidy.aside (h : st.Tidy db) {ws : List Write} {counts : List Int}
    (write : db.writeAll ws = .ok (counts, db')) (slots : List Slot)
    (keys : keysOf ws = slots.map st.slotKey) (aside : ∀ s ∈ slots, s.Aside) : st.Tidy db' := by
  refine h.congr fun s hs => view_of_writeAll write fun hkey => ?_
  rw [keys, slotKey_mem] at hkey
  have hs' := aside s hkey
  rcases hs with rfl | ⟨id, rfl | rfl | rfl⟩ <;> exact hs'

theorem writeAll_cons_ok {w : Write} {ws : List Write} {counts : List Int}
    (h : db.writeAll (w :: ws) = .ok (counts, db')) :
    ∃ n db₁ ns, db.write w = .ok (n, db₁) ∧ db₁.writeAll ws = .ok (ns, db') := by
  obtain ⟨⟨n, db₁⟩, first, h⟩ := exists_of_bind_ok h
  obtain ⟨⟨ns, db₂⟩, rest, h⟩ := exists_of_bind_ok h
  cases h
  exact ⟨n, db₁, ns, first, rest⟩

theorem writeAll_append_ok {ws more : List Write} {counts : List Int}
    (h : db.writeAll (ws ++ more) = .ok (counts, db')) :
    ∃ ns db₁ ms, db.writeAll ws = .ok (ns, db₁) ∧ db₁.writeAll more = .ok (ms, db') := by
  induction ws generalizing db counts with
  | nil => exact ⟨[], db, counts, rfl, h⟩
  | cons w ws ih =>
    obtain ⟨n, db₁, ns, first, rest⟩ := writeAll_cons_ok h
    obtain ⟨ns, db₂, ms, hws, hmore⟩ := ih rest
    exact ⟨n :: ns, db₂, ms, Database.writeAll_cons first hws, hmore⟩

theorem view_set {s : Slot} {value : String} {n : Int}
    (h : db.write (.set (st.slotKey s) value) = .ok (n, db')) :
    st.view db' = Function.update (st.view db) s (some (.text value)) := by
  cases h
  exact view_put _

theorem view_delete (slots : List Slot) {n : Int}
    (h : db.write (.delete (slots.map st.slotKey)) = .ok (n, db')) (t : Slot) :
    st.view db' t = if t ∈ slots then none else st.view db t := by
  obtain ⟨n', db'', hwrite, hview⟩ := write_delete st db slots
  obtain ⟨-, rfl⟩ := Prod.mk.inj (Except.ok.inj (h.symm.trans hwrite))
  exact hview t

theorem view_insert {s : Slot} {ids : List Int} {i n : Int} (hids : st.view db s = idSet ids)
    (h : db.write (.insert (st.slotKey s) (idText (some i))) = .ok (n, db')) :
    st.view db' = Function.update (st.view db) s
      (idSet (if i ∈ ids then ids else ids ++ [i])) := by
  obtain ⟨n', db'', hwrite, hview⟩ := write_insert hids i
  obtain ⟨-, rfl⟩ := Prod.mk.inj (Except.ok.inj (h.symm.trans hwrite))
  exact hview

theorem view_remove {s : Slot} {ids : List Int} {id : Option Int} {n : Int}
    (hids : st.view db s = idSet ids)
    (h : db.write (.remove (st.slotKey s) (idText id)) = .ok (n, db')) :
    st.view db' = Function.update (st.view db) s (idSet (ids.filter fun i => some i != id)) := by
  obtain ⟨db'', hwrite, hview⟩ := write_remove hids id
  obtain ⟨-, rfl⟩ := Prod.mk.inj (Except.ok.inj (h.symm.trans hwrite))
  exact hview

theorem holdsEntries_of_entries {key : String} {old : Table String String}
    (h : db.entries key = .ok old) : HoldsEntries old (db.get? key) := by
  rw [Database.entries] at h
  split at h
  · next hnone =>
    cases h
    exact .inr ⟨hnone, rfl⟩
  · next es hes =>
    cases h
    exact .inl hes
  · cases h

/-- Entries are written to a table. -/
theorem view_putEntries {s : Slot} {new : Table String String} (nodup : new.keys.Nodup) {n : Int}
    (h : db.write (.putEntries (st.slotKey s) new) = .ok (n, db')) :
    ∃ old merged, db.entries (st.slotKey s) = .ok old ∧
      st.view db' = Function.update (st.view db) s (some (.hash merged)) ∧
      ∀ key, merged.get? key = (new.get? key).or (old.get? key) := by
  obtain ⟨old, hold, -⟩ := exists_of_bind_ok h
  obtain ⟨n', db'', merged, hwrite, hview, hget⟩ :=
    write_putEntries (holdsEntries_of_entries hold) nodup
  obtain ⟨-, rfl⟩ := Prod.mk.inj (Except.ok.inj (h.symm.trans hwrite))
  exact ⟨old, merged, hold, hview, hget⟩

/-- An item is written at the end of a list. -/
theorem view_push {s : Slot} {item : String} {n : Int}
    (h : db.write (.push (st.slotKey s) item) = .ok (n, db')) :
    ∃ items, db.items (st.slotKey s) = .ok items ∧
      st.view db' = Function.update (st.view db) s (some (.list (items ++ [item]))) := by
  obtain ⟨items, hitems, h⟩ := exists_of_bind_ok h
  cases h
  exact ⟨items, hitems, view_put _⟩

theorem readInt?_of_readStoredInt {text : String} {n : Int}
    (h : Cursor.readStoredInt text = .ok n) : Number.readInt? text.toList = some n := by
  rw [Cursor.readStoredInt] at h
  split at h
  · cases h
  · split at h
    · next m hm =>
      cases h
      exact hm
    · cases h

/-- A counter gives the next id. -/
theorem count_increment {s : Slot} {n : Int}
    (h : db.write (.increment (st.slotKey s)) = .ok (n, db')) :
    countIn (st.view db s) = n - 1 ∧ countIn (st.view db' s) = n := by
  obtain ⟨text, htext, h⟩ := exists_of_bind_ok h
  obtain ⟨m, hm, h⟩ := exists_of_bind_ok h
  cases h
  constructor
  · rw [Int.add_sub_cancel, view]
    rw [Database.text] at htext
    split at htext
    · next hnone =>
      cases htext
      cases hm
      rw [hnone]
      rfl
    · next text hsome =>
      cases htext
      have hm : Cursor.readStoredInt text = .ok m := hm
      rw [hsome, countIn, readInt?_of_readStoredInt hm]
      rfl
    · cases htext
  · rw [view_put, Function.update_self, countIn, toString_eq_idText, idText_some,
      String.toList_ofList, readInt?_intText]
    rfl

/-! ### Transactions -/

/-- An alert is stored: its document, and its id in the set of alerts. -/
theorem Tidy.store (h : st.Tidy db) {i : Int} {document : String} {counts : List Int}
    (write : db.writeAll [.set (st.slotKey (.alert (some i))) document,
      .insert (st.slotKey .alerts) (idText (some i))] = .ok (counts, db')) :
    st.Tidy db' ∧ (st.view db' (.alert (some i))).isSome := by
  obtain ⟨_, db₁, _, hset, write⟩ := writeAll_cons_ok write
  obtain ⟨_, db₂, _, hinsert, write⟩ := writeAll_cons_ok write
  cases write
  obtain ⟨ids, hids, hlisted⟩ := h.listed
  have hview₁ := view_set hset
  have hids₁ : st.view db₁ .alerts = idSet ids := by
    rw [hview₁, Function.update_of_ne (by simp)]
    exact hids
  have hview := view_insert hids₁ hinsert
  rw [hview₁] at hview
  have halert (id : Option Int) : (st.view db' (.alert id)).isSome ↔
      id = some i ∨ (st.view db (.alert id)).isSome := by
    rw [hview, Function.update_of_ne (by simp), Function.update_apply]
    by_cases hid : id = some i
    · simp [hid]
    · simp [hid]
  refine ⟨⟨⟨_, by rw [hview, Function.update_self], fun id => ?_⟩, fun id hid => ?_,
    fun id hid => ?_, fun id entries text hid => ?_⟩, (halert _).mpr (.inl rfl)⟩
  · rw [halert, hlisted]
    by_cases hi : i ∈ ids
    · rw [if_pos hi]
      exact or_iff_right_of_imp fun heq => heq ▸ List.mem_map_of_mem hi
    · simp [hi, or_comm, eq_comm]
  · rw [hview, Function.update_of_ne (by simp), Function.update_of_ne (by simp)] at hid
    exact (halert id).mpr (.inr (h.cursor id hid))
  · rw [hview, Function.update_of_ne (by simp), Function.update_of_ne (by simp)] at hid
    exact (halert id).mpr (.inr (h.history id hid))
  · rw [hview, Function.update_of_ne (by simp), Function.update_of_ne (by simp)] at hid
    exact h.integer id entries text hid

/-- An alert is removed from the set of alerts, with all that is its own. -/
theorem Tidy.remove (h : st.Tidy db) {id : Option Int} {counts : List Int}
    (write : db.writeAll [.remove (st.slotKey .alerts) (idText id),
      .delete ([.alert id, .links id, .cursor id, .history id].map st.slotKey)] =
        .ok (counts, db')) : st.Tidy db' := by
  obtain ⟨_, db₁, _, hremove, write⟩ := writeAll_cons_ok write
  obtain ⟨_, db₂, _, hdelete, write⟩ := writeAll_cons_ok write
  cases write
  obtain ⟨ids, hids, hlisted⟩ := h.listed
  have hview := view_delete _ hdelete
  rw [view_remove hids hremove] at hview
  have own {s : Slot} (hs : s ∈ [Slot.alert id, .links id, .cursor id, .history id]) :
      st.view db' s = none := by
    rw [hview, if_pos hs]
  have other {s : Slot} (hs : s ∉ [Slot.alert id, .links id, .cursor id, .history id])
      (halerts : s ≠ .alerts) : st.view db' s = st.view db s := by
    rw [hview, if_neg hs, Function.update_of_ne halerts]
  constructor
  · refine ⟨ids.filter fun i => some i != id, by rw [hview, if_neg (by simp),
      Function.update_self], fun j => ?_⟩
    by_cases hj : j = id
    · subst hj
      rw [own (by simp)]
      simp
    · rw [other (by simp [hj]) (by simp), hlisted]
      simp only [List.mem_map, List.mem_filter, bne_iff_ne]
      constructor
      · rintro ⟨i, hi, rfl⟩
        exact ⟨i, ⟨hi, hj⟩, rfl⟩
      · rintro ⟨i, ⟨hi, -⟩, rfl⟩
        exact ⟨i, hi, rfl⟩
  · intro j hj
    by_cases hid : j = id
    · rw [hid, own (by simp)] at hj
      cases hj
    · rw [other (by simp [hid]) (by simp)] at hj ⊢
      exact h.cursor j hj
  · intro j hj
    by_cases hid : j = id
    · rw [hid, own (by simp)] at hj
      cases hj
    · rw [other (by simp [hid]) (by simp)] at hj ⊢
      exact h.history j hj
  · intro j entries text hj
    by_cases hid : j = id
    · rw [hid, own (by simp)] at hj
      cases hj
    · rw [other (by simp [hid]) (by simp)] at hj
      exact h.integer j entries text hj

/-- A cursor is written for an alert that is there, or removed. -/
theorem Tidy.setCursor (h : st.Tidy db) {id : Option Int} {x : Option Stored}
    (hview : st.view db' = Function.update (st.view db) (.cursor id) x)
    (there : x.isSome → (st.view db (.alert id)).isSome)
    (integer : ∀ entries text, x = some (.hash entries) →
      entries.get? "last_seen_log_id" = some text → ∃ n, text = String.ofList (Json.intText n)) :
    st.Tidy db' := by
  have own : st.view db' (.cursor id) = x := by
    rw [hview, Function.update_self]
  have other {s : Slot} (hs : s ≠ .cursor id) : st.view db' s = st.view db s := by
    rw [hview, Function.update_of_ne hs]
  constructor
  · simpa [other] using h.listed
  · intro j hj
    rw [other (by simp)]
    by_cases hid : j = id
    · subst hid
      exact there (own ▸ hj)
    · rw [other (by simp [hid])] at hj
      exact h.cursor j hj
  · simpa [other] using h.history
  · intro j entries text hj htext
    by_cases hid : j = id
    · subst hid
      exact integer entries text (own.symm.trans hj) htext
    · rw [other (by simp [hid])] at hj
      exact h.integer j entries text hj htext

/-- A cursor is removed. -/
theorem Tidy.clearCursor (h : st.Tidy db) {id : Option Int} {n : Int}
    (write : db.write (.delete [st.slotKey (.cursor id)]) = .ok (n, db')) :
    st.Tidy db' ∧ st.view db' (.alert id) = st.view db (.alert id) := by
  have hview : st.view db' = Function.update (st.view db) (.cursor id) none := by
    funext t
    rw [view_delete [.cursor id] write, Function.update_apply]
    simp
  exact ⟨h.setCursor hview (by simp) (by simp), by rw [hview, Function.update_of_ne (by simp)]⟩

/-- The entries of a cursor are written for an alert that is there. -/
theorem Tidy.putCursor (h : st.Tidy db) {id : Option Int} {c : Cursor} {n : Int}
    (there : (st.view db (.alert id)).isSome)
    (write : db.write (.putEntries (st.slotKey (.cursor id)) c.encode) = .ok (n, db')) :
    st.Tidy db' := by
  obtain ⟨old, merged, hold, hview, hget⟩ := view_putEntries c.nodup_keys_encode write
  refine h.setCursor hview (fun _ => there) ?_
  rintro _ text ⟨⟩ htext
  rw [hget, (Cursor.get?_encode c).1] at htext
  rcases Option.or_eq_some_iff.mp htext with hnew | ⟨-, hold'⟩
  · obtain ⟨m, -, rfl⟩ := Option.map_eq_some_iff.mp hnew
    exact ⟨m, rfl⟩
  · rcases holdsEntries_of_entries hold with hentries | ⟨-, rfl⟩
    · exact h.integer id old text hentries hold'
    · cases hold'

/-- The settings of an alert are saved, with its cursor or without. -/
theorem Tidy.save (h : st.Tidy db) {a : Alert} {i : Int} (hid : a.id = some i) {document : String}
    {resetBaseline : Bool} {counts : List Int}
    (write : db.writeAll (st.saveCommands a document resetBaseline) = .ok (counts, db')) :
    st.Tidy db' := by
  rw [saveCommands, hid] at write
  obtain ⟨_, db₁, _, hstore, hcursor⟩ := writeAll_append_ok write
  obtain ⟨tidy, there⟩ := h.store hstore
  cases resetBaseline with
  | false =>
    cases hcursor
    exact tidy
  | true =>
    obtain ⟨_, db₂, _, hdelete, hcursor⟩ := writeAll_cons_ok hcursor
    obtain ⟨cleared, same⟩ := tidy.clearCursor hdelete
    split at hcursor
    · cases hcursor
      exact cleared
    · obtain ⟨_, db₃, _, hput, hcursor⟩ := writeAll_cons_ok hcursor
      cases hcursor
      exact cleared.putCursor (same ▸ there) hput

/-- A trigger is recorded of an alert that is there. -/
theorem Tidy.push (h : st.Tidy db) {id : Option Int} {item : String} {n : Int}
    (there : (st.view db (.alert id)).isSome)
    (write : db.write (.push (st.slotKey (.history id)) item) = .ok (n, db')) : st.Tidy db' := by
  obtain ⟨items, -, hview⟩ := view_push write
  have other {s : Slot} (hs : s ≠ .history id) : st.view db' s = st.view db s := by
    rw [hview, Function.update_of_ne hs]
  constructor
  · simpa [other] using h.listed
  · simpa [other] using h.cursor
  · intro j hj
    rw [other (by simp)]
    by_cases hid : j = id
    · exact hid ▸ there
    · rw [other (by simp [hid])] at hj
      exact h.history j hj
  · simpa [other] using h.integer

end AlertStore

end LogAlert.KeyValue
