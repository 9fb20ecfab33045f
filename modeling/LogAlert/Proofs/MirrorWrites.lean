import LogAlert.Proofs.Mirror

/-!
# Writes keep a mirror

When an alert store writes to data that mirror a book, the data after it mirror the book after the
same request.  For each request there are two lemmas: which slots have to change, and how, for the
data to mirror the next book; and that the commands of the store change just these.

## Main results

* `AlertStore.ends_save`, `AlertStore.ends_delete`, `AlertStore.ends_updateCursor`, … : how a
  write of an alert store ends on data that mirror a book.
-/

namespace LogAlert

open KeyValue AlertStore
open Simulation.Server

namespace AlertBook

variable {b : AlertBook} {s : Slot} {x : Option Stored}

theorem get_store (b : AlertBook) (i : Int) (a : Alert) (c : Cursor) :
    (b.store i a c).1.get (some i) = some (b.store i a c).2 := by
  change ((b.store i a c).1.alert? (some i)).map _ = _
  rw [alert?_store, if_pos rfl]
  rfl

/-! ### Slots that a request leaves alone -/

theorem Fits.setNextAlert (h : b.Fits s x) {n : Int} (other : s ≠ .alertCounter) :
    ({ b with nextAlert := n } : AlertBook).Fits s x := by
  cases s with
  | alertCounter => exact absurd rfl other
  | _ => exact h

theorem Fits.store (h : b.Fits s x) {i : Int} {a : Alert} {c : Cursor}
    (other : s ∉ [.alerts, .alert (some i), .cursor (some i)]) : (b.store i a c).1.Fits s x := by
  simp only [List.mem_cons, List.not_mem_nil, or_false, not_or] at other
  obtain ⟨hset, halert, hcursor⟩ := other
  cases s with
  | alerts => exact absurd rfl hset
  | alert id =>
    change x = storedDocument _ ((b.store i a c).1.alert? id)
    rw [alert?_store, if_neg fun heq => halert (congrArg _ heq)]
    exact h
  | cursor id =>
    change FitsCursor ((((b.store i a c).1.alert? id).map (·.cursor)).getD .empty) x
    rw [alert?_store, if_neg fun heq => hcursor (congrArg _ heq)]
    exact h
  | links id =>
    obtain ⟨ids, fits⟩ := h
    exact ⟨ids, fits.stored, fits.nodup, fits.storable, fits.given,
      (linked_store b i a c id).trans fits.linked_eq⟩
  | _ => exact h

theorem Fits.delete (h : b.Fits s x) {id : Option Int}
    (other : s ∉ [.alerts, .alert id, .links id, .cursor id, .history id]) :
    (b.delete id).1.Fits s x := by
  simp only [List.mem_cons, List.not_mem_nil, or_false, not_or] at other
  obtain ⟨hset, halert, hlinks, hcursor, hhistory⟩ := other
  cases s with
  | alerts => exact absurd rfl hset
  | alert other =>
    change x = storedDocument _ ((b.delete id).1.alert? other)
    rw [alert?_delete, if_neg fun heq => halert (congrArg _ heq)]
    exact h
  | cursor other =>
    change FitsCursor ((((b.delete id).1.alert? other).map (·.cursor)).getD .empty) x
    rw [alert?_delete, if_neg fun heq => hcursor (congrArg _ heq)]
    exact h
  | links other =>
    have hlinked : (b.delete id).1.linked other = b.linked other := by
      rw [linked_delete, if_neg fun heq => hlinks (congrArg _ heq)]
    obtain ⟨ids, fits⟩ := h
    cases id <;> exact ⟨ids, fits.stored, fits.nodup, fits.storable, fits.given,
      hlinked.trans fits.linked_eq⟩
  | history other =>
    change x = textList (((b.delete id).1.recorded other).map _)
    rw [recorded_delete, if_neg fun heq => hhistory (congrArg _ heq)]
    exact h
  | _ => cases id <;> exact h

theorem Fits.setLinks (h : b.Fits s x) {i : Int} {ids : List Int} (other : s ≠ .links (some i)) :
    ({ b with links := b.links.put i ids } : AlertBook).Fits s x := by
  cases s with
  | links id =>
    obtain ⟨named, fits⟩ := h
    refine ⟨named, fits.stored, fits.nodup, fits.storable, fits.given, ?_⟩
    rw [linked_put, if_neg fun heq => other (congrArg _ heq)]
    exact fits.linked_eq
  | _ => exact h

end AlertBook

namespace KeyValue.AlertStore

variable {st : AlertStore} {b : AlertBook} {db db' : Database}

/-! ### Counters -/

theorem ends_nextId {kind : String} {s : Slot} (hs : st.counterKey kind = st.slotKey s)
    {next : Int} (h : Counts next (st.view db s)) (storable : (Json.int next).isStorable) :
    ∃ db', Ends (st.nextId kind) db (.ok next) db' ∧ Counts (next + 1) (st.view db' s) ∧
      ∀ t, t ≠ s → st.view db' t = st.view db t := by
  obtain ⟨db', hwrite, pos, hview⟩ := write_increment h storable
  refine ⟨db', ?_, ?_, fun t ht => ?_⟩
  · rw [nextId, hs]
    exact ends_write hwrite
  · rw [hview, Function.update_self, Counts, Int.add_sub_cancel]
    exact .inr ⟨Int.lt_add_one_of_le pos, rfl⟩
  · rw [hview, Function.update_of_ne ht]

/-! ### Saving an alert -/

/-- Data mirror a book after an alert is stored if the set of alerts, its document and its cursor
are changed accordingly. -/
theorem Mirrors.store (h : st.Mirrors b db) {i : Int} {a : Alert} {c : Cursor} {document : String}
    (encoded : Alert.encode { a with id := some i } = .ok document)
    (alerts : st.view db' .alerts =
      idSet (if i ∈ b.alerts.keys then b.alerts.keys else b.alerts.keys ++ [i]))
    (alert : st.view db' (.alert (some i)) = some (.text document))
    (cursor : AlertBook.FitsCursor c (st.view db' (.cursor (some i))))
    (others : ∀ t ∉ [Slot.alerts, .alert (some i), .cursor (some i)],
      st.view db' t = st.view db t) : st.Mirrors (b.store i a c).1 db' := by
  intro t
  by_cases touched : t ∈ [Slot.alerts, .alert (some i), .cursor (some i)]
  · simp only [List.mem_cons, List.not_mem_nil, or_false] at touched
    rcases touched with rfl | rfl | rfl
    · refine alerts.trans (congrArg idSet ?_)
      change _ = (b.alerts.put i _).keys
      rw [Table.keys_put, Table.has_eq_isSome]
      exact if_congr Table.mem_keys rfl rfl
    · rw [alert, AlertBook.Fits, AlertBook.alert?_store, if_pos rfl, storedDocument]
      change _ = (Alert.encode { a with id := some i }).toOption.map _
      rw [encoded]
      rfl
    · rw [AlertBook.Fits, AlertBook.cursor, AlertBook.alert?_store, if_pos rfl]
      exact cursor
  · rw [others t touched]
    exact (h t).store touched

/-- What the commands do that store a document and its id: the document is in its slot, and the id
is in the set. -/
theorem write_document {s set : Slot} (distinct : s ≠ set) {ids : List Int}
    (h : st.view db set = idSet ids) (i : Int) (document : String) :
    ∃ n db₁ db₂, db.write (.set (st.slotKey s) document) = .ok (1, db₁) ∧
      db₁.write (.insert (st.slotKey set) (idText (some i))) = .ok (n, db₂) ∧
      st.view db₂ set = idSet (if i ∈ ids then ids else ids ++ [i]) ∧
      st.view db₂ s = some (.text document) ∧ ∀ t ∉ [set, s], st.view db₂ t = st.view db t := by
  obtain ⟨db₁, hset, hview₁⟩ := write_set st db s document
  have hids : st.view db₁ set = idSet ids := by
    rw [hview₁, Function.update_of_ne distinct.symm]
    exact h
  obtain ⟨n, db₂, hinsert, hview₂⟩ := write_insert hids i
  refine ⟨n, db₁, db₂, hset, hinsert, ?_, ?_, fun t ht => ?_⟩
  · rw [hview₂, Function.update_self]
  · rw [hview₂, Function.update_of_ne distinct, hview₁, Function.update_self]
  · simp only [List.mem_cons, List.not_mem_nil, or_false, not_or] at ht
    rw [hview₂, Function.update_of_ne ht.1, hview₁, Function.update_of_ne ht.2]

/-- The cursor that is given takes the place of the stored one. -/
theorem write_baseline (st : AlertStore) (db : Database) (i : Int) (c : Cursor) :
    ∃ counts db', db.writeAll (.delete [st.slotKey (.cursor (some i))] ::
        (if c.encode.isEmpty then []
          else [.putEntries (st.slotKey (.cursor (some i))) c.encode])) = .ok (counts, db') ∧
      AlertBook.FitsCursor c (st.view db' (.cursor (some i))) ∧
      ∀ t, t ≠ .cursor (some i) → st.view db' t = st.view db t := by
  obtain ⟨n, db₁, hdelete, hview₁⟩ := write_delete st db [.cursor (some i)]
  have hnone : st.view db₁ (.cursor (some i)) = none := by
    rw [hview₁, if_pos List.mem_cons_self]
  have hothers (t : Slot) (ht : t ≠ .cursor (some i)) : st.view db₁ t = st.view db t := by
    rw [hview₁, if_neg (mt List.mem_singleton.mp ht)]
  cases hc : c.encode with
  | nil =>
    refine ⟨_, db₁, Database.writeAll_one hdelete, ⟨[], .inr ⟨hnone, rfl⟩, ?_⟩, hothers⟩
    rw [hc]
    exact fun _ _ => rfl
  | cons e entries =>
    have nodup : (Table.keys (e :: entries)).Nodup := hc ▸ c.nodup_keys_encode
    obtain ⟨m, db₂, stored, hput, hview₂, hget⟩ :=
      write_putEntries (s := .cursor (some i)) (.inr ⟨hnone, rfl⟩) nodup
    refine ⟨_, db₂, Database.writeAll_cons hdelete (Database.writeAll_one hput),
      ⟨stored, .inl ?_, fun key _ => ?_⟩, fun t ht => ?_⟩
    · rw [hview₂, Function.update_self]
    · rw [hget, hc]
      exact Option.or_none
    · rw [hview₂, Function.update_of_ne ht, hothers t ht]

/-- The commands that store an alert under its id. -/
theorem writeAll_saveCommands (h : st.Mirrors b db) {a : Alert} {i : Int} (hid : a.id = some i)
    {document : String} (encoded : a.encode = .ok document) (resetBaseline : Bool) :
    ∃ counts db', db.writeAll (st.saveCommands a document resetBaseline) = .ok (counts, db') ∧
      st.Mirrors (b.store i a (if resetBaseline then a.cursor else b.cursor (some i))).1 db' := by
  have encoded : Alert.encode { a with id := some i } = .ok document := by
    rw [← hid]
    exact encoded
  obtain ⟨n, db₁, db₂, hset, hinsert, halerts, halert, hothers⟩ :=
    write_document (s := .alert (some i)) (by nofun) (h .alerts) i document
  rw [saveCommands, hid]
  cases resetBaseline with
  | false =>
    refine ⟨_, db₂, Database.writeAll_cons hset (Database.writeAll_one hinsert),
      h.store encoded halerts halert ?_ fun t ht => hothers t ?_⟩
    · rw [hothers _ (by simp)]
      exact h (.cursor (some i))
    · simp only [List.mem_cons, not_or] at ht ⊢
      exact ⟨ht.1, ht.2.1, List.not_mem_nil⟩
  | true =>
    obtain ⟨counts, db₃, hbaseline, hcursor, hkept⟩ := write_baseline st db₂ i a.cursor
    refine ⟨_, db₃, Database.writeAll_cons hset (Database.writeAll_cons hinsert hbaseline),
      h.store encoded ?_ ?_ hcursor fun t ht => ?_⟩
    · rw [hkept _ (by nofun), halerts]
    · rw [hkept _ (by nofun), halert]
    · simp only [List.mem_cons, not_or] at ht
      rw [hkept t ht.2.2.1, hothers t]
      simp only [List.mem_cons, not_or]
      exact ⟨ht.1, ht.2.1, List.not_mem_nil⟩

/-- The end of a save: an alert with an id is stored and read. -/
theorem ends_store (h : st.Mirrors b db) {a : Alert} {i : Int} (hid : a.id = some i)
    (settings : a.settings.Storable) (resetBaseline : Bool) (action : String)
    (storable : (b.store i a (if resetBaseline then a.cursor else b.cursor (some i))).1.Storable) :
    ∃ db', Ends (do
        let document ← .ofExcept a.encode
        let _ ← guarded action (Client.transact (st.saveCommands a document resetBaseline))
        st.get a.id) db
      (.ok (some (b.store i a (if resetBaseline then a.cursor else b.cursor (some i))).2)) db' ∧
      st.Mirrors (b.store i a (if resetBaseline then a.cursor else b.cursor (some i))).1 db' := by
  have hint : (Json.ofInt? a.id).isStorable := by
    rw [hid]
    have hstored := (storable.alert (Table.get?_put_self b.alerts i _)).1
    exact hstored.id
  obtain ⟨document, hencode, -⟩ := Alert.decode_document settings hint
  obtain ⟨counts, db', hwrite, hmirror⟩ := writeAll_saveCommands h hid hencode resetBaseline
  have hdocument : Ends (.ofExcept a.encode) db (.ok document) db := hencode ▸ ends_ofExcept _
  refine ⟨db', hdocument.bind (((ends_transact hwrite).guarded action).bind ?_), hmirror⟩
  rw [hid, ← AlertBook.get_store]
  exact ends_get storable hmirror (some i)

/-- A new alert is stored under the next id. -/
theorem ends_save_new (hb : b.Storable) (h : st.Mirrors b db) {a : Alert} (hid : a.id = none)
    (settings : a.settings.Storable) (cursor : a.cursor.Storable)
    (next : (Json.int b.nextAlert).isStorable) (resetBaseline : Bool) :
    ∃ db', Ends (st.save a resetBaseline) db (.ok (some (b.save a resetBaseline).2)) db' ∧
      st.Mirrors (b.save a resetBaseline).1 db' := by
  obtain ⟨db₁, hnext, hcounts, hothers⟩ :=
    ends_nextId (rfl : st.counterKey "alert" = st.slotKey .alertCounter) (h .alertCounter) next
  have h₁ : st.Mirrors { b with nextAlert := b.nextAlert + 1 } db₁ := by
    intro t
    by_cases touched : t = .alertCounter
    · exact touched ▸ hcounts
    · rw [hothers t touched]
      exact (h t).setNextAlert touched
  have storable := hb.save_new hid settings cursor next resetBaseline
  rw [AlertBook.save_new hid] at storable ⊢
  obtain ⟨db₂, hstore, hmirror⟩ :=
    ends_store (a := { a with id := some b.nextAlert }) h₁ rfl settings true
      ("save alert " ++ idText (some b.nextAlert)) storable
  refine ⟨db₂, ?_, hmirror⟩
  rw [save, hid]
  exact (ends_begins _).bind ((hnext.guarded _).bind ((ends_pure _).bind hstore))

/-- An alert that is there is stored under its id. -/
theorem ends_save_old (hb : b.Storable) (h : st.Mirrors b db) {a current : Alert} {i : Int}
    (hid : a.id = some i) (there : b.alerts.get? i = some current) (settings : a.settings.Storable)
    (cursor : a.cursor.Storable) (resetBaseline : Bool) :
    ∃ db', Ends (st.save a resetBaseline) db (.ok (some (b.save a resetBaseline).2)) db' ∧
      st.Mirrors (b.save a resetBaseline).1 db' := by
  have storable := hb.save_old hid there settings cursor resetBaseline
  have hcursor : b.cursorFor i a resetBaseline =
      if resetBaseline then a.cursor else b.cursor (some i) := by
    rw [AlertBook.cursorFor, there, AlertBook.cursor_eq there]
  rw [AlertBook.save_old hid, hcursor] at storable ⊢
  obtain ⟨db₁, hstore, hmirror⟩ :=
    ends_store h hid settings resetBaseline ("save alert " ++ idText a.id) storable
  refine ⟨db₁, ?_, hmirror⟩
  rw [save, hid]
  exact (ends_begins _).bind ((ends_pure _).bind hstore)

/-! ### Removing an alert -/

/-- Data mirror a book after an alert is removed if its slots are empty and the set of alerts is
without it. -/
theorem Mirrors.delete (h : st.Mirrors b db) {id : Option Int}
    (alerts : st.view db' .alerts = idSet (b.alerts.keys.filter fun i => some i != id))
    (others : ∀ t, t ≠ .alerts → st.view db' t =
      if t ∈ [Slot.alert id, .links id, .cursor id, .history id] then none else st.view db t) :
    st.Mirrors (b.delete id).1 db' := by
  intro t
  by_cases hset : t = .alerts
  · rw [hset, alerts]
    cases id with
    | none => exact congrArg idSet (List.filter_eq_self.mpr fun _ _ => rfl)
    | some i =>
      refine congrArg idSet ?_
      change _ = (b.alerts.erase i).keys
      rw [Table.keys_erase]
      rfl
  · rw [others t hset]
    by_cases touched : t ∈ [Slot.alert id, .links id, .cursor id, .history id]
    · rw [if_pos touched]
      simp only [List.mem_cons, List.not_mem_nil, or_false] at touched
      rcases touched with rfl | rfl | rfl | rfl
      · rw [AlertBook.Fits, AlertBook.alert?_delete, if_pos rfl]
        rfl
      · rw [AlertBook.Fits, AlertBook.linked_delete, if_pos rfl]
        exact ⟨[], .inr ⟨rfl, rfl⟩, .nil, nofun, nofun, rfl⟩
      · rw [AlertBook.Fits, AlertBook.cursor, AlertBook.alert?_delete, if_pos rfl]
        exact ⟨[], .inr ⟨rfl, rfl⟩, fun _ _ => rfl⟩
      · rw [AlertBook.Fits, AlertBook.recorded_delete, if_pos rfl]
        rfl
    · rw [if_neg touched]
      exact (h t).delete (mt List.mem_cons.mp (not_or.mpr ⟨hset, touched⟩))

/-- Whether an id was removed from a set. -/
theorem changedFirst_remove {α : Type} (t : Table Int α) (id : Option Int) (n : Int) :
    changedFirst [if id ∈ t.keys.map some then 1 else 0, n] = id.elim false t.has := by
  cases id with
  | none =>
    rw [if_neg (by simp)]
    rfl
  | some i =>
    rw [Option.elim_some, Table.has_eq_isSome]
    by_cases there : i ∈ t.keys
    · rw [if_pos (List.mem_map_of_mem there), Table.mem_keys.mp there]
      rfl
    · rw [if_neg (mt (List.mem_map_of_injective (Option.some_injective Int)).mp there),
        Table.get?_eq_none.mpr there]
      rfl

theorem ends_delete (h : st.Mirrors b db) (id : Option Int) :
    ∃ db', Ends (st.delete id) db (.ok (b.delete id).2) db' ∧ st.Mirrors (b.delete id).1 db' := by
  obtain ⟨db₁, hremove, hview₁⟩ := write_remove (h .alerts) id
  obtain ⟨n, db₂, hdelete, hview₂⟩ :=
    write_delete st db₁ [.alert id, .links id, .cursor id, .history id]
  have hresult : changedFirst [if id ∈ b.alerts.keys.map some then 1 else 0, n] =
      (b.delete id).2 := by
    rw [changedFirst_remove]
    cases id <;> rfl
  have hwrites := Database.writeAll_cons hremove (Database.writeAll_one hdelete)
  refine ⟨db₂, ?_, h.delete ?_ fun t ht => ?_⟩
  · rw [← hresult]
    exact (ends_begins _).bind (((ends_transact hwrites).guarded _).map changedFirst)
  · rw [hview₂, if_neg (by simp), hview₁, Function.update_self]
  · rw [hview₂, hview₁, Function.update_of_ne ht]

/-! ### Linking an alert -/

/-- An alert that is there is linked to channels that are there. -/
theorem ends_setChannels (hb : b.Storable) (h : st.Mirrors b db) {i : Int}
    (there : (b.alerts.get? i).isSome) {channelIds : List Int}
    (existing : ∀ c ∈ channelIds, b.channels.has c) :
    ∃ db', Ends (st.setChannels (some i) channelIds) db
        (b.setChannels (some i) channelIds).2 db' ∧
      st.Mirrors (b.setChannels (some i) channelIds).1 db' := by
  have hids : channelIds.eraseDups.filter b.channels.has = channelIds.eraseDups :=
    List.filter_eq_self.mpr fun c hc => existing c (List.mem_eraseDups.mp hc)
  obtain ⟨db', hwrite, hview⟩ :=
    write_set st db (.links (some i)) (linksDocument channelIds.eraseDups)
  rw [AlertBook.setChannels_ok there]
  refine ⟨db', (ends_begins _).bind (((ends_write hwrite).guarded _).bind (ends_pure ())), ?_⟩
  intro t
  rw [hview]
  by_cases touched : t = .links (some i)
  · rw [touched, Function.update_self, AlertBook.Fits, AlertBook.linked_put, if_pos rfl]
    have hchannel (c : Int) (hc : c ∈ channelIds.eraseDups) :
        (Json.int c).isStorable ∧ c < b.nextChannel := by
      have hhas := existing c (List.mem_eraseDups.mp hc)
      rw [Table.has_eq_isSome] at hhas
      obtain ⟨channel, hget⟩ := Option.isSome_iff_exists.mp hhas
      exact ⟨hb.isStorable_channelId hget, (hb.channel hget).2.2⟩
    exact ⟨_, .inl rfl, nodup_eraseDups channelIds, fun c hc => (hchannel c hc).1,
      fun c hc => (hchannel c hc).2, rfl⟩
  · rw [Function.update_of_ne touched]
    exact (h t).setLinks touched

/-! ### Channels -/

/-- Data mirror a book after a channel is stored if the set of channels, its document and the
counter are changed accordingly.  Links that are named keep their meaning. -/
theorem mirrors_putChannel (h : ∀ t, t ≠ .channelCounter → b.Fits t (st.view db t)) {i n : Int}
    {c : Channel} {document : String}
    (encoded : c.encode = .ok document) (le : b.nextChannel ≤ n)
    (kept : ∀ j < b.nextChannel, Table.has (b.channels.put i c) j = b.channels.has j)
    (set : st.view db' .channels =
      idSet (if i ∈ b.channels.keys then b.channels.keys else b.channels.keys ++ [i]))
    (channel : st.view db' (.channel (some i)) = some (.text document))
    (counter : Counts n (st.view db' .channelCounter))
    (others : ∀ t ∉ [Slot.channels, .channel (some i), .channelCounter],
      st.view db' t = st.view db t) :
    st.Mirrors { b with channels := b.channels.put i c, nextChannel := n } db' := by
  intro t
  by_cases touched : t ∈ [Slot.channels, .channel (some i), .channelCounter]
  · simp only [List.mem_cons, List.not_mem_nil, or_false] at touched
    rcases touched with rfl | rfl | rfl
    · refine set.trans (congrArg idSet ?_)
      change _ = (b.channels.put i c).keys
      rw [Table.keys_put, Table.has_eq_isSome]
      exact if_congr Table.mem_keys rfl rfl
    · rw [channel, AlertBook.Fits, AlertBook.channel?, Option.bind_some, Table.get?_put_self,
        storedDocument, Option.bind_some, encoded]
      rfl
    · exact counter
  · rw [others t touched]
    have hfits := h t fun heq => touched (by simp [heq])
    cases t with
    | links id =>
      obtain ⟨ids, fits⟩ := hfits
      refine ⟨ids, fits.stored, fits.nodup, fits.storable,
        fun j hj => Int.lt_of_lt_of_le (fits.given j hj) le, fits.linked_eq.trans ?_⟩
      exact List.filter_congr fun j hj => (kept j (fits.given j hj)).symm
    | channel id =>
      cases id with
      | none => exact hfits
      | some j =>
        have hne : i ≠ j := fun hij => touched (by simp [hij])
        rw [AlertBook.Fits, AlertBook.channel?, Option.bind_some,
          Table.get?_put_of_ne b.channels c hne]
        exact hfits
    | channels | channelCounter => exact absurd (by simp) touched
    | _ => exact hfits

/-- The end of a save: a channel with an id is written to its document and to the set. -/
theorem ends_writeChannel {ids : List Int} (set : st.view db .channels = idSet ids) {c : Channel}
    {i : Int} (hid : c.id = some i) {document : String} (encoded : c.encode = .ok document)
    (action : String) :
    ∃ db', Ends (do
        let document ← .ofExcept c.encode
        let _ ← guarded action (Client.transact
          [.set (st.channelKey (idText c.id)) document, .insert st.channelsKey (idText c.id)])
        pure c) db (.ok c) db' ∧
      st.view db' .channels = idSet (if i ∈ ids then ids else ids ++ [i]) ∧
      st.view db' (.channel (some i)) = some (.text document) ∧
      ∀ t ∉ [Slot.channels, .channel (some i)], st.view db' t = st.view db t := by
  obtain ⟨m, db₁, db₂, hset, hinsert, hchannels, hchannel, hothers⟩ :=
    write_document (s := .channel (some i)) (by nofun) set i document
  have hdocument : Ends (.ofExcept c.encode) db (.ok document) db := encoded ▸ ends_ofExcept _
  have hwrites := ends_transact (Database.writeAll_cons hset (Database.writeAll_one hinsert))
  refine ⟨db₂, ?_, hchannels, hchannel, hothers⟩
  rw [hid]
  exact hdocument.bind ((hwrites.guarded action).bind (ends_pure c))

/-- A channel with an id is stored, and the data mirror the book with it. -/
theorem ends_putChannel (h : ∀ t, t ≠ .channelCounter → b.Fits t (st.view db t)) {c : Channel}
    {i n : Int} (hid : c.id = some i) (hc : c.Storable) (le : b.nextChannel ≤ n)
    (kept : ∀ j < b.nextChannel, Table.has (b.channels.put i c) j = b.channels.has j)
    (counter : Counts n (st.view db .channelCounter)) (action : String) :
    ∃ db', Ends (do
        let document ← .ofExcept c.encode
        let _ ← guarded action (Client.transact
          [.set (st.channelKey (idText c.id)) document, .insert st.channelsKey (idText c.id)])
        pure c) db (.ok c) db' ∧
      st.Mirrors { b with channels := b.channels.put i c, nextChannel := n } db' := by
  obtain ⟨document, hencode, -⟩ := Channel.decode_document hc
  obtain ⟨db', hends, hchannels, hchannel, hothers⟩ :=
    ends_writeChannel (h .channels (by nofun)) hid hencode action
  refine ⟨db', hends,
    mirrors_putChannel h hencode le kept hchannels hchannel ?_ fun t ht => hothers t ?_⟩
  · rw [hothers _ (by simp)]
    exact counter
  · simp only [List.mem_cons, not_or] at ht ⊢
    exact ⟨ht.1, ht.2.1, List.not_mem_nil⟩

/-- A new channel is stored under the next id. -/
theorem ends_saveChannel_new (h : st.Mirrors b db) {c : Channel} (hid : c.id = none)
    (hc : c.Storable) (next : (Json.int b.nextChannel).isStorable) :
    ∃ db', Ends (st.saveChannel c) db (.ok (b.saveChannel c).2) db' ∧
      st.Mirrors (b.saveChannel c).1 db' := by
  obtain ⟨db₁, hnext, hcounts, hothers⟩ :=
    ends_nextId (rfl : st.counterKey "channel" = st.slotKey .channelCounter)
      (h .channelCounter) next
  have h₁ : ∀ t, t ≠ .channelCounter → b.Fits t (st.view db₁ t) := fun t ht =>
    (hothers t ht).symm ▸ h t
  have kept (c : Channel) : ∀ j < b.nextChannel,
      Table.has (b.channels.put b.nextChannel c) j = b.channels.has j := by
    intro j hj
    rw [Table.has_eq_isSome, Table.has_eq_isSome,
      Table.get?_put_of_ne b.channels c (Int.ne_of_gt hj)]
  have hnew : Channel.Storable { c with id := some b.nextChannel } := hc.setId next
  obtain ⟨db₂, hput, hmirror⟩ := ends_putChannel h₁ rfl hnew
    (Int.le_of_lt (Int.lt_succ b.nextChannel)) (kept _) hcounts
    ("save channel " ++ idText (some b.nextChannel))
  have hsave : b.saveChannel c =
      ({ b with
          channels := b.channels.put b.nextChannel { c with id := some b.nextChannel }
          nextChannel := b.nextChannel + 1 },
        { c with id := some b.nextChannel }) := by
    rw [AlertBook.saveChannel, hid]
  rw [hsave]
  refine ⟨db₂, ?_, hmirror⟩
  rw [saveChannel, hid]
  exact (ends_begins _).bind ((hnext.guarded _).bind ((ends_pure _).bind hput))

/-- A channel that is there is stored under its id. -/
theorem ends_saveChannel_old (h : st.Mirrors b db) {c : Channel} {i : Int} (hid : c.id = some i)
    (there : (b.channels.get? i).isSome) (hc : c.Storable) :
    ∃ db', Ends (st.saveChannel c) db (.ok (b.saveChannel c).2) db' ∧
      st.Mirrors (b.saveChannel c).1 db' := by
  have kept : ∀ j < b.nextChannel, Table.has (b.channels.put i c) j = b.channels.has j := by
    intro j _
    rw [Table.has_eq_isSome, Table.has_eq_isSome, Table.get?_put]
    split
    · next hij => rw [← eq_of_beq hij, there, Option.isSome_some]
    · rfl
  obtain ⟨db', hput, hmirror⟩ := ends_putChannel (fun t _ => h t) hid hc (Int.le_refl _) kept
    (h .channelCounter) ("save channel " ++ idText c.id)
  have hsave : b.saveChannel c = ({ b with channels := b.channels.put i c }, c) := by
    rw [AlertBook.saveChannel, hid]
  rw [hsave]
  refine ⟨db', ?_, hmirror⟩
  rw [saveChannel, hid]
  exact (ends_begins _).bind ((ends_pure _).bind hput)

/-! ### Removing a channel -/

/-- Data mirror a book after a channel is removed if its document is gone and the set of channels
is without it.  Links in documents may still name it. -/
theorem Mirrors.deleteChannel (h : st.Mirrors b db) {i : Int}
    (set : st.view db' .channels = idSet (b.channels.keys.filter (· != i)))
    (channel : st.view db' (.channel (some i)) = none)
    (others : ∀ t ∉ [Slot.channels, .channel (some i)], st.view db' t = st.view db t) :
    st.Mirrors (b.deleteChannel (some i)).1 db' := by
  intro t
  by_cases touched : t ∈ [Slot.channels, .channel (some i)]
  · simp only [List.mem_cons, List.not_mem_nil, or_false] at touched
    rcases touched with rfl | rfl
    · refine set.trans (congrArg idSet ?_)
      change _ = (b.channels.erase i).keys
      rw [Table.keys_erase]
    · rw [channel]
      change none = storedDocument Channel.encode ((b.channels.erase i).get? i)
      rw [Table.get?_erase_self]
      rfl
  · rw [others t touched]
    have hfits := h t
    cases t with
    | links id =>
      obtain ⟨ids, fits⟩ := hfits
      refine ⟨ids, fits.stored, fits.nodup, fits.storable, fits.given, ?_⟩
      rw [AlertBook.linked_deleteChannel, fits.linked_eq,
        List.Nodup.erase_eq_filter (fits.nodup.filter _), List.filter_filter]
      refine List.filter_congr fun j _ => ?_
      change _ = Table.has (b.channels.erase i) j
      rw [Table.has_eq_isSome, Table.has_eq_isSome, Table.get?_erase]
      by_cases hij : i = j
      · simp [hij]
      · simp [hij, Ne.symm hij]
    | channel id =>
      cases id with
      | none => exact hfits
      | some j =>
        have hne : i ≠ j := fun hij => touched (by simp [hij])
        change _ = storedDocument Channel.encode ((b.channels.erase i).get? j)
        rw [Table.get?_erase_of_ne b.channels hne]
        exact hfits
    | channels => exact absurd (by simp) touched
    | _ => exact hfits

theorem ends_deleteChannel (h : st.Mirrors b db) (id : Option Int) :
    ∃ db', Ends (st.deleteChannel id) db (.ok (b.deleteChannel id).2) db' ∧
      st.Mirrors (b.deleteChannel id).1 db' := by
  obtain ⟨db₁, hremove, hview₁⟩ := write_remove (h .channels) id
  obtain ⟨n, db₂, hdelete, hview₂⟩ := write_delete st db₁ [.channel id]
  have hresult : changedFirst [if id ∈ b.channels.keys.map some then 1 else 0, n] =
      (b.deleteChannel id).2 := by
    rw [changedFirst_remove]
    cases id <;> rfl
  have hwrites := Database.writeAll_cons hremove (Database.writeAll_one hdelete)
  have hset : st.view db₂ .channels = idSet (b.channels.keys.filter fun i => some i != id) := by
    rw [hview₂, if_neg (by simp), hview₁, Function.update_self]
  have hothers (t : Slot) (ht : t ∉ [Slot.channels, .channel id]) :
      st.view db₂ t = st.view db t := by
    simp only [List.mem_cons, List.not_mem_nil, or_false, not_or] at ht
    rw [hview₂, if_neg (mt List.mem_singleton.mp ht.2), hview₁, Function.update_of_ne ht.1]
  refine ⟨db₂, ?_, ?_⟩
  · rw [← hresult]
    exact (ends_begins _).bind (((ends_transact hwrites).guarded _).map changedFirst)
  · have hchannel : st.view db₂ (.channel id) = none := by
      rw [hview₂, if_pos List.mem_cons_self]
    cases id with
    | some i => exact h.deleteChannel hset hchannel hothers
    | none =>
      intro t
      by_cases touched : t ∈ [Slot.channels, .channel none]
      · simp only [List.mem_cons, List.not_mem_nil, or_false] at touched
        rcases touched with rfl | rfl
        · exact hset.trans (congrArg idSet (List.filter_eq_self.mpr fun _ _ => rfl))
        · exact hchannel
      · rw [hothers t touched]
        exact h t

end KeyValue.AlertStore

end LogAlert
