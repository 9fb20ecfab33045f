import LogAlert.Proofs.Commands
import LogAlert.Proofs.KeptBook

/-!
# A server that mirrors a book

The data of a key-value server mirror a book if what is stored in each slot of a store fits the
book: the sets of ids, the documents of alerts and channels, the triggers, and the counters are
determined by the book.  A cursor may have its entries in any order, and the document of the links
may name channels that are gone.  An alert store on such a server reads what the book holds.

## Main definitions

* `AlertBook.Fits` : what may be stored in a slot for a book.
* `AlertStore.Mirrors` : the data of a server mirror a book.

## Main results

* `AlertStore.ends_get`, `AlertStore.ends_listAlerts`, `AlertStore.ends_listHistory`, … : the reads
  of an alert store on data that mirror a book are those of the book.
-/

namespace LogAlert

open KeyValue AlertStore
open Simulation.Server (Ends ends_begins ends_mapList ends_ofExcept ends_pure)

/-! ### What fits a book -/

/-- What is stored for the document of a value, if there is a value. -/
def storedDocument {α : Type} (encode : α → Except Failure String) (a : Option α) :
    Option Stored :=
  a.bind fun a => (encode a).toOption.map .text

/-- The document of the links to channels. -/
def linksDocument (ids : List Int) : String :=
  (Json.arr (ids.map .int)).write

namespace AlertBook

/-- The links of an alert are those of the channels in the document that are still there.  A
channel that is gone does not come back, as its id was given before. -/
structure FitsLinks (linked : List Int) (channels : Table Int Channel) (nextChannel : Int)
    (ids : List Int) (x : Option Stored) : Prop where
  stored : x = some (.text (linksDocument ids)) ∨ x = none ∧ ids = []
  nodup : ids.Nodup
  storable : ∀ i ∈ ids, (Json.int i).isStorable
  given : ∀ i ∈ ids, i < nextChannel
  linked_eq : linked = ids.filter channels.has

/-- A cursor is read from the entries that are stored. -/
def FitsCursor (c : Cursor) (x : Option Stored) : Prop :=
  ∃ entries, HoldsEntries entries x ∧ ∀ key ∈ Cursor.keys, entries.get? key = c.encode.get? key

/-- What is stored in a slot fits a book. -/
def Fits (b : AlertBook) : Slot → Option Stored → Prop
  | .alerts, x => x = idSet b.alerts.keys
  | .channels, x => x = idSet b.channels.keys
  | .alert id, x => x = storedDocument Alert.encode (b.alert? id)
  | .links id, x => ∃ ids, FitsLinks (b.linked id) b.channels b.nextChannel ids x
  | .cursor id, x => FitsCursor (b.cursor id) x
  | .history id, x => x = textList ((b.recorded id).map History.encode)
  | .channel id, x => x = storedDocument Channel.encode (b.channel? id)
  | .alertCounter, x => Counts b.nextAlert x
  | .channelCounter, x => Counts b.nextChannel x
  | .historyCounter, x => Counts b.nextHistory x

/-- The channels that are read through the document are those that are linked. -/
theorem FitsLinks.filterMap_get? {linked ids : List Int} {channels : Table Int Channel}
    {nextChannel : Int} {x : Option Stored} (h : FitsLinks linked channels nextChannel ids x) :
    ids.filterMap channels.get? = linked.filterMap channels.get? := by
  rw [h.linked_eq, List.filterMap_filter]
  refine List.filterMap_congr fun i _ => ?_
  rw [Table.has_eq_isSome]
  cases channels.get? i <;> rfl

end AlertBook

namespace KeyValue.AlertStore

/-- The data of a server mirror a book: what is stored in each slot fits the book. -/
def Mirrors (st : AlertStore) (b : AlertBook) (db : Database) : Prop :=
  ∀ s, b.Fits s (st.view db s)

variable {st : AlertStore} {b : AlertBook} {db : Database}

theorem mirrors_empty (st : AlertStore) : st.Mirrors .empty [] := by
  intro s
  cases s with
  | alerts | channels => rfl
  | alert id | channel id | history id => cases id <;> rfl
  | links id => cases id <;> exact ⟨[], .inr ⟨rfl, rfl⟩, .nil, nofun, nofun, rfl⟩
  | cursor id => cases id <;> exact ⟨[], .inr ⟨rfl, rfl⟩, fun _ _ => rfl⟩
  | alertCounter | channelCounter | historyCounter => exact .inl ⟨rfl, rfl⟩

/-! ### Reading channels -/

/-- A channel is read from its document. -/
theorem ends_readChannel_stored {id : Option Int} {c : Channel} {document : String}
    (stored : st.view db (.channel id) = some (.text document))
    (decoded : Channel.decode document = .ok c) :
    Ends (st.readChannel (idText id)) db (.ok (some c)) db := by
  have hread := ends_read_get (x := some document) stored
  have hresult : Ends (.ofExcept (Channel.decode document)) db (.ok c) db :=
    decoded ▸ ends_ofExcept _
  exact (ends_begins _).bind ((hread.guarded _).bind (hresult.map some))

theorem ends_readChannel (hb : b.Storable) (h : st.Mirrors b db) (id : Option Int) :
    Ends (st.readChannel (idText id)) db (.ok (b.channel? id)) db := by
  have hview : st.view db (.channel id) = storedDocument Channel.encode (b.channel? id) :=
    h (.channel id)
  cases hc : b.channel? id with
  | none =>
    rw [hc] at hview
    have hread := ends_read_get (x := none) hview
    exact (ends_begins _).bind ((hread.guarded _).bind (ends_pure none))
  | some c =>
    obtain ⟨i, -, hget⟩ := Option.bind_eq_some_iff.mp hc
    obtain ⟨document, hencode, hdecode⟩ := Channel.decode_document (hb.channel hget).1
    rw [hc, storedDocument, Option.bind_some, hencode] at hview
    exact ends_readChannel_stored hview hdecode

/-- The channels that are read one by one. -/
theorem ends_readChannels_of_each {found : Int → Option Channel} {ids : List Int}
    (each : ∀ i ∈ ids, Ends (st.readChannel (idText (some i))) db (.ok (found i)) db) :
    Ends (st.readChannels (ids.map fun i => idText (some i))) db
      (.ok (ids.filterMap found)) db := by
  have hread := (ends_mapList each).map (List.filterMap id)
  rw [List.filterMap_map] at hread
  exact hread

/-- The channels with the given ids that are there. -/
theorem ends_readChannels (hb : b.Storable) (h : st.Mirrors b db) (ids : List Int) :
    Ends (st.readChannels (ids.map fun i => idText (some i))) db
      (.ok (ids.filterMap b.channels.get?)) db :=
  ends_readChannels_of_each fun i _ => ends_readChannel hb h (some i)

/-- The document of links is read back to the texts of the ids. -/
theorem linkedIds_linksDocument {ids : List Int} (storable : ∀ i ∈ ids, (Json.int i).isStorable) :
    (do linkedIds (← Document.read (linksDocument ids))) =
      .ok (ids.map fun i => idText (some i)) := by
  have harray : (Json.arr (ids.map .int)).isStorable := by
    rw [Json.isStorable, Json.areStorable_iff, List.forall_mem_map]
    exact storable
  rw [linksDocument, Document.read_write harray]
  change Except.ok ((ids.map Json.int).map Json.display) = _
  rw [List.map_map]
  rfl

theorem linksDocument_ne_empty (ids : List Int) : linksDocument ids ≠ "" := by
  intro h
  have hchars := congrArg String.toList h
  rw [linksDocument, Json.write, String.toList_ofList, Json.writeChars] at hchars
  cases hchars

/-- Links are read from their document, and then the channels that it names. -/
theorem ends_readLinks_stored {id : Option Int} {ids : List Int} {channels : List Channel}
    (stored : st.view db (.links id) = some (.text (linksDocument ids)))
    (storable : ∀ i ∈ ids, (Json.int i).isStorable)
    (read : Ends (st.readChannels (ids.map fun i => idText (some i))) db (.ok channels) db) :
    Ends (st.readLinks (idText id)) db (.ok channels) db := by
  have hread := ends_read_get (x := some (linksDocument ids)) stored
  rw [readLinks]
  refine hread.bind ?_
  dsimp only
  rw [beq_false_of_ne (linksDocument_ne_empty ids), if_neg Bool.false_ne_true]
  have hids : Ends (.ofExcept (do linkedIds (← Document.read (linksDocument ids)))) db
      (.ok (ids.map fun i => idText (some i))) db :=
    linkedIds_linksDocument storable ▸ ends_ofExcept _
  exact hids.bind read

theorem ends_readLinks (hb : b.Storable) (h : st.Mirrors b db) (id : Option Int) :
    Ends (st.readLinks (idText id)) db (.ok ((b.linked id).filterMap b.channels.get?)) db := by
  obtain ⟨ids, fits⟩ := h (.links id)
  rw [← fits.filterMap_get?]
  rcases fits.stored with hview | ⟨hview, rfl⟩
  · exact ends_readLinks_stored hview fits.storable (ends_readChannels hb h ids)
  · have hread := ends_read_get (x := none) hview
    exact hread.bind (ends_pure [])

/-! ### Reading alerts -/

theorem ends_readAlert (hb : b.Storable) (h : st.Mirrors b db) (id : Option Int) :
    Ends (st.readAlert (idText id)) db (.ok (b.get id)) db := by
  have hview : st.view db (.alert id) = storedDocument Alert.encode (b.alert? id) :=
    h (.alert id)
  rw [readAlert]
  cases ha : b.alert? id with
  | none =>
    have hget : b.get id = none := congrArg (Option.map b.load) ha
    rw [ha] at hview
    have hread := ends_read_get (x := none) hview
    rw [hget]
    exact hread.bind (ends_pure none)
  | some a =>
    have hget : b.get id = some (b.load a) := congrArg (Option.map b.load) ha
    obtain ⟨i, rfl, hi⟩ := Option.bind_eq_some_iff.mp ha
    obtain ⟨storable, -⟩ := hb.alert hi
    obtain ⟨document, hencode, hdecode⟩ := Alert.decode_document storable.settings storable.id
    rw [ha, storedDocument, Option.bind_some, hencode] at hview
    have hread := ends_read_get (x := some document) hview
    obtain ⟨entries, holds, same⟩ := h (.cursor (some i))
    rw [AlertBook.cursor_eq hi] at same
    have hstored : Ends (.ofExcept (Alert.decode document)) db
        (.ok { a with channels := [], cursor := .empty }) db := hdecode ▸ ends_ofExcept _
    have hentries : Ends (.ofExcept (Cursor.decode entries)) db (.ok a.cursor) db :=
      Cursor.decode_of_get? storable.cursor same ▸ ends_ofExcept _
    rw [hget, AlertBook.load_eq b (hb.sound.id_eq hi)]
    exact hread.bind (hstored.bind ((ends_read_entries holds).bind (hentries.bind
      ((ends_readLinks hb h (some i)).bind (ends_pure _)))))

theorem ends_get (hb : b.Storable) (h : st.Mirrors b db) (id : Option Int) :
    Ends (st.get id) db (.ok (b.get id)) db :=
  (ends_begins _).bind ((ends_readAlert hb h id).guarded _)

/-! ### Lists -/

/-- Results of each of several items are the results together. -/
theorem mapM_ok {α β γ : Type} {f : α → Except Failure β} {item : γ → α} {g : γ → β} {cs : List γ}
    (h : ∀ c ∈ cs, f (item c) = .ok (g c)) : (cs.map item).mapM f = .ok (cs.map g) := by
  induction cs with
  | nil => rfl
  | cons c cs ih =>
    obtain ⟨head, tail⟩ := List.forall_mem_cons.mp h
    rw [List.map_cons, List.mapM_cons, head, ih tail]
    rfl

/-- The ids of a set are read in ascending order. -/
theorem sortedIds_eq {ids : List Int} (storable : ∀ i ∈ ids, (Json.int i).isStorable)
    (ascend : ids.Pairwise (· < ·)) :
    sortedIds (ids.map fun i => idText (some i)) = .ok ids := by
  have hread : ∀ i ∈ ids, Cursor.readStoredInt (idText (some i)) = .ok i :=
    fun i hi => Cursor.readStoredInt_intText (storable i hi)
  rw [sortedIds, mapM_ok hread, List.map_id']
  refine congrArg Except.ok (List.mergeSort_of_pairwise (ascend.imp fun hlt => ?_))
  exact decide_eq_true (Int.le_of_lt hlt)

theorem map_toString (ids : List Int) : ids.map toString = ids.map fun i => idText (some i) :=
  List.map_congr_left fun i _ => toString_eq_idText i

theorem ends_listAlerts (hb : b.Storable) (h : st.Mirrors b db) (owner : Json) :
    Ends (st.listAlerts owner) db (.ok (b.listAlerts owner)) db := by
  have storable : ∀ i ∈ b.alerts.keys, (Json.int i).isStorable := by
    intro i hi
    obtain ⟨a, ha⟩ := Option.isSome_iff_exists.mp (Table.mem_keys.mp hi)
    exact hb.isStorable_alertId ha
  have hids : Ends (.ofExcept (sortedIds (b.alerts.keys.map fun i => idText (some i)))) db
      (.ok b.alerts.keys) db := sortedIds_eq storable hb.alerts_ascend ▸ ends_ofExcept _
  have hread := ends_mapList fun i (_ : i ∈ b.alerts.keys) => ends_readAlert hb h (some i)
  rw [← map_toString] at hread
  have hloaded : (b.alerts.keys.map fun i => b.get (some i)).filterMap id =
      b.alerts.values.map b.load := by
    rw [← Table.filterMap_get?_keys hb.sound.nodup, List.map_filterMap, List.filterMap_map]
    rfl
  have hfiltered : ((b.alerts.keys.map fun i => b.get (some i)).filterMap id).filter
      (fun a => ownerFits owner a.settings.ownerId) = b.listAlerts owner := by
    rw [hloaded, List.filter_map]
    rfl
  rw [← hfiltered]
  exact (ends_begins _).bind ((((ends_read_members (h .alerts)).bind
    (hids.bind hread)).guarded _).bind (ends_pure _))

theorem ends_listEnabled (hb : b.Storable) (h : st.Mirrors b db) :
    Ends st.listEnabled db (.ok b.listEnabled) db := by
  have hall : b.listAlerts .null = b.alerts.values.map b.load :=
    congrArg (List.map b.load) (List.filter_eq_self.mpr fun _ _ => rfl)
  have hfiltered : (b.listAlerts .null).filter (fun a => a.settings.enabled.isTruthy) =
      b.listEnabled := by
    rw [hall, List.filter_map]
    rfl
  rw [← hfiltered]
  exact (ends_begins _).bind ((ends_listAlerts hb h .null).bind (ends_pure _))

theorem ends_listChannels (hb : b.Storable) (h : st.Mirrors b db) (owner : Json) :
    Ends (st.listChannels owner) db (.ok (b.listChannels owner)) db := by
  have storable : ∀ i ∈ b.channels.keys, (Json.int i).isStorable := by
    intro i hi
    obtain ⟨c, hc⟩ := Option.isSome_iff_exists.mp (Table.mem_keys.mp hi)
    exact hb.isStorable_channelId hc
  have hids : Ends (.ofExcept (sortedIds (b.channels.keys.map fun i => idText (some i)))) db
      (.ok b.channels.keys) db := sortedIds_eq storable hb.channels_ascend ▸ ends_ofExcept _
  have nodup : b.channels.keys.Nodup := hb.channels_ascend.imp fun hlt => Int.ne_of_lt hlt
  have hread := ends_readChannels hb h b.channels.keys
  rw [← map_toString, Table.filterMap_get?_keys nodup] at hread
  exact (ends_begins _).bind (((ends_read_members (h .channels)).guarded _).bind
    (hids.bind (hread.bind (ends_pure _))))

/-- The last items of a list, the last one first. -/
theorem reverse_rangeOf {limit : Int} (pos : 1 ≤ limit) (items : List String) :
    (rangeOf (-limit) (-1) items).reverse = items.reverse.take limit.toNat := by
  have hstart : (max 0 (if -limit < 0 then -limit + (items.length : Int) else -limit)).toNat =
      items.length - limit.toNat := by
    rw [if_pos (by omega)]
    omega
  rw [rangeOf, hstart, List.take_of_length_le, List.reverse_drop, List.take_eq_take_iff]
  · rw [List.length_reverse]
    omega
  · rw [List.length_drop, if_pos (by decide)]
    omega

theorem ends_listHistory (hb : b.Storable) (h : st.Mirrors b db) (id : Option Int) {limit : Int}
    (pos : 1 ≤ limit) :
    Ends (st.listHistory id limit) db (b.listHistory id limit) db := by
  have hread := ends_read_range (h (.history id)) (-limit) (-1)
  have storable : ∀ r ∈ (b.recorded id).reverse.take limit.toNat,
      History.decode r.encode = .ok r := by
    intro r hr
    have hmem := List.mem_reverse.mp (List.mem_of_mem_take hr)
    cases id with
    | none => cases hmem
    | some i => exact History.decode_encode (hb.row hmem).1
  have hdecode : ((rangeOf (-limit) (-1) ((b.recorded id).map History.encode)).reverse).mapM
      History.decode = .ok ((b.recorded id).reverse.take limit.toNat) := by
    rw [reverse_rangeOf pos, ← List.map_reverse, ← List.map_take, mapM_ok storable, List.map_id']
  have hrows : Ends (.ofExcept ((rangeOf (-limit) (-1)
      ((b.recorded id).map History.encode)).reverse.mapM History.decode)) db
        (b.listHistory id limit) db := by
    rw [hdecode, ← hb.listHistory_eq id pos]
    exact ends_ofExcept _
  exact (ends_begins _).bind ((hread.guarded _).bind hrows)

end KeyValue.AlertStore

end LogAlert
