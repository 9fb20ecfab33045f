import LogAlert.Proofs.SlotEffects
import LogAlert.Proofs.StoredRevisions

/-!
# The channels of an alert on a server

An alert store in a key-value server keeps the ids that the channels of an alert were last set to,
whether there are such channels or not, and loads those of them that are there when the alert is
read.  A channel that was there when it was linked is loaded until it is removed.  A channel that is
saved later, under an id that the links name, is loaded as well.

## Main definitions

* `Call.Names`, `Call.Relinks`, `Call.Saves`, `Call.Removes` : what calls do to links and channels.
* `Linked` : a channel was linked while it was there, and has not been removed since.
* `SavedSince` : a channel was linked and has been saved since.
* `AlertStore.Attached` : the channels that an alert is loaded with.

## Main results

* `AlertStore.links_follow`, `AlertStore.channel_follows` : the links and channels on a server.
* `AlertStore.loaded_channels` : which channels an alert is loaded with.
* `AlertStore.ends_get_linkedFirst` : a channel that is saved after it was linked is loaded.
-/

namespace LogAlert

open KeyValue AlertStore
open Simulation (Server)
open Simulation.Server

/-! ### Results of several items -/

/-- What is found of several items is found of those of which something is found. -/
theorem forall₂_filterMap {α β : Type} {R : α → Option β → Prop} {p : α → Bool} {as : List α}
    {found : List (Option β)} (each : List.Forall₂ R as found)
    (finds : ∀ a x, R a x → x.isSome = p a) :
    List.Forall₂ (fun a b => R a (some b)) (as.filter p) (found.filterMap id) := by
  induction each with
  | nil => exact .nil
  | @cons a x as found h _ ih =>
    rw [List.filter_cons, ← finds a x h]
    cases x with
    | none => exact ih
    | some b => exact .cons h ih

theorem exists_of_mem_right {α β : Type} {R : α → β → Prop} {as : List α} {bs : List β}
    (each : List.Forall₂ R as bs) {b : β} (hb : b ∈ bs) : ∃ a, R a b := by
  induction each with
  | nil => cases hb
  | cons h _ ih =>
    rcases List.mem_cons.mp hb with rfl | hb
    · exact ⟨_, h⟩
    · exact ih hb

/-! ### Calls -/

namespace Call

/-- The channels of an alert are set, this one among them. -/
def Names (id : Option Int) (c : Int) : Call Alerts → Prop
  | ⟨.setChannels other channelIds, .ok _⟩ => other = id ∧ c ∈ channelIds
  | _ => False

/-- The channels of an alert are set, or the alert is removed. -/
def Relinks (id : Option Int) : Call Alerts → Prop
  | ⟨.setChannels other _, .ok _⟩ => other = id
  | ⟨.delete other, .ok _⟩ => other = id
  | _ => False

/-- A channel is saved under an id. -/
def Saves (c : Int) : Call Alerts → Prop
  | ⟨.saveChannel _, .ok stored⟩ => stored.id = some c
  | _ => False

/-- The channel under an id is removed. -/
def Removes (c : Int) : Call Alerts → Prop
  | ⟨.deleteChannel id, .ok _⟩ => id = some c
  | _ => False

variable {id : Option Int} {c : Int} {call : Call Alerts}

theorem Names.relinks (h : call.Names id c) : call.Relinks id := by
  obtain ⟨r, _ | answer⟩ := call
  · cases r <;> exact h.elim
  · cases r with
    | setChannels => exact h.1
    | _ => exact h.elim

/-- A call that sets channels neither saves nor removes one. -/
theorem Names.not_channel (h : call.Names id c) (d : Int) : ¬call.Saves d ∧ ¬call.Removes d := by
  obtain ⟨r, answer⟩ := call
  cases r with
  | setChannels => exact ⟨not_false, not_false⟩
  | _ => cases answer <;> exact h.elim

theorem Relinks.touches (h : call.Relinks id) : call.request.Touches (.links id) := by
  obtain ⟨r, _ | answer⟩ := call
  · cases r <;> exact h.elim
  · cases r with
    | setChannels other => exact congrArg _ (Eq.symm h)
    | delete other => simp [AlertRequest.Touches, show other = id from h]
    | _ => exact h.elim

theorem Saves.touches (h : call.Saves c) : call.request.Touches (.channel (some c)) := by
  obtain ⟨r, _ | answer⟩ := call
  · cases r <;> exact h.elim
  · cases r with
    | saveChannel => exact .inr (.inr ⟨_, rfl⟩)
    | _ => exact h.elim

theorem Removes.touches (h : call.Removes c) : call.request.Touches (.channel (some c)) := by
  obtain ⟨r, _ | answer⟩ := call
  · cases r <;> exact h.elim
  · cases r with
    | deleteChannel other => simp [AlertRequest.Touches, show other = some c from h]
    | _ => exact h.elim

end Call

variable {id : Option Int} {c : Int} {past : List (Call Alerts)}

/-- The channel was there when the channels of the alert were last set and it was named, and has not
been removed since. -/
def Linked (id : Option Int) (c : Int) (past : List (Call Alerts)) : Prop :=
  ∃ before call after, past = before ++ call :: after ∧ call.Names id c ∧
    (∀ later ∈ after, ¬later.Relinks id) ∧
      Since (Call.Saves c) (Call.Removes c) before ∧ ∀ later ∈ after, ¬later.Removes c

/-- The channel was named when the channels of the alert were last set, and has been saved since and
not removed after that. -/
def SavedSince (id : Option Int) (c : Int) (past : List (Call Alerts)) : Prop :=
  ∃ before call after, past = before ++ call :: after ∧ call.Names id c ∧
    (∀ later ∈ after, ¬later.Relinks id) ∧ Since (Call.Saves c) (Call.Removes c) after

/-- A channel that is there and named was there when it was named, or has been saved since. -/
theorem named_and_saved_iff :
    Since (Call.Names id c) (Call.Relinks id) past ∧ Since (Call.Saves c) (Call.Removes c) past ↔
      Linked id c past ∨ SavedSince id c past := by
  have split {before after : List (Call Alerts)} {call : Call Alerts} (named : call.Names id c) :
      Since (Call.Saves c) (Call.Removes c) (before ++ call :: after) ↔
        Since (Call.Saves c) (Call.Removes c) after ∨
          Since (Call.Saves c) (Call.Removes c) before ∧ ∀ later ∈ after, ¬later.Removes c := by
    obtain ⟨saves, removes⟩ := named.not_channel c
    rw [List.append_cons, since_append, since_append_singleton]
    simp [saves, removes]
  constructor
  · rintro ⟨⟨before, call, after, rfl, named, kept⟩, there⟩
    rcases (split named).mp there with later | ⟨first, unremoved⟩
    · exact .inr ⟨before, call, after, rfl, named, kept, later⟩
    · exact .inl ⟨before, call, after, rfl, named, kept, first, unremoved⟩
  · rintro (⟨before, call, after, rfl, named, kept, first, unremoved⟩ |
      ⟨before, call, after, rfl, named, kept, later⟩)
    · exact ⟨⟨before, call, after, rfl, named, kept⟩, (split named).mpr (.inr ⟨first, unremoved⟩)⟩
    · exact ⟨⟨before, call, after, rfl, named, kept⟩, (split named).mpr (.inl later)⟩

namespace KeyValue.AlertStore

variable {st : AlertStore} {s : Server} {db : Database}

/-! ### What is stored -/

/-- **The links on a server** name what they were last set to. -/
theorem links_follow (dialogue : Dialogue (I := Alerts) st.answer .empty past s)
    (id : Option Int) :
    ∃ db, s = ⟨db, []⟩ ∧ ∃ ids : List Int, ids.Nodup ∧
      (st.view db (.links id) = some (.text (linksDocument ids)) ∨
        st.view db (.links id) = none ∧ ids = []) ∧
      ∀ c, c ∈ ids ↔ Since (Call.Names id c) (Call.Relinks id) past := by
  refine slot_follows (P := fun past x => ∃ ids : List Int, ids.Nodup ∧
    (x = some (.text (linksDocument ids)) ∨ x = none ∧ ids = []) ∧
      ∀ c, c ∈ ids ↔ Since (Call.Names id c) (Call.Relinks id) past) dialogue
    ⟨[], .nil, .inr ⟨rfl, rfl⟩, fun c => iff_of_false List.not_mem_nil not_since_nil⟩
    (fun past r => ?_) fun past r e x ⟨ids, nodup, stored, named⟩ =>
      ⟨ids, nodup, stored, fun c => ?_⟩
  · by_cases touches : r.Touches (.links id)
    · cases r with
      | setChannels other channelIds =>
        obtain rfl : other = id := by simpa [AlertRequest.Touches, eq_comm] using touches
        refine (turns_setChannels st other channelIds).imp fun _ x y written _ =>
          ⟨channelIds.eraseDups, nodup_eraseDups channelIds, .inl written, fun c => ?_⟩
        rw [since_append_singleton, List.mem_eraseDups]
        simp [Call.Names, Call.Relinks]
      | delete other =>
        obtain rfl : other = id := by simpa [AlertRequest.Touches, eq_comm] using touches
        refine (turns_delete (by simp)).imp fun existed x y gone _ =>
          ⟨[], .nil, .inr ⟨gone, rfl⟩, fun c => ?_⟩
        rw [since_append_singleton]
        simp [Call.Names, Call.Relinks]
      | _ => simp [AlertRequest.Touches] at touches
    · refine (leaves_serve touches).imp fun a x y same ⟨ids, nodup, stored, named⟩ =>
        ⟨ids, nodup, same ▸ stored, fun c => ?_⟩
      have unlinked : ¬Call.Relinks id ⟨r, .ok a⟩ := fun relinks => touches relinks.touches
      rw [since_append_singleton, named, or_iff_right fun names => unlinked names.relinks,
        and_iff_left unlinked]
  · rw [since_append_singleton, named]
    cases r <;> simp [Call.Names, Call.Relinks]

/-- **A channel is there on a server** since it was saved, until it is removed. -/
theorem channel_follows (dialogue : Dialogue (I := Alerts) st.answer .empty past s) (c : Int) :
    ∃ db, s = ⟨db, []⟩ ∧ ((st.view db (.channel (some c))).isSome ↔
      Since (Call.Saves c) (Call.Removes c) past) := by
  refine slot_follows (P := fun past x => x.isSome ↔ Since (Call.Saves c) (Call.Removes c) past)
    dialogue (iff_of_false nofun not_since_nil) (fun past r => ?_) fun past r e x there => ?_
  · by_cases touches : r.Touches (.channel (some c))
    · cases r with
      | saveChannel channel =>
        refine (turns_saveChannel (some c)).imp fun stored x y saved there => ?_
        rw [since_append_singleton, ← there]
        split at saved
        · next own => simp [Call.Saves, own, saved]
        · next other => simp [Call.Saves, Call.Removes, other, saved]
      | deleteChannel id =>
        obtain rfl : id = some c := by simpa [AlertRequest.Touches, eq_comm] using touches
        refine (turns_deleteChannel st (some c)).imp fun existed x y gone there => ?_
        rw [since_append_singleton, gone]
        simp [Call.Saves, Call.Removes]
      | _ => simp [AlertRequest.Touches] at touches
    · refine (leaves_serve touches).imp fun a x y same there => ?_
      rw [since_append_singleton, same, there, or_iff_right fun saves => touches saves.touches,
        and_iff_left fun removes => touches removes.touches]
  · rw [since_append_singleton, there]
    cases r <;> simp [Call.Saves, Call.Removes]

/-! ### What is read -/

theorem isSome_of_text {key : String} {x : Option String} (h : db.text key = .ok x) :
    (db.get? key).isSome = x.isSome := by
  rw [Database.text] at h
  split at h
  · next none =>
    cases h
    rw [none]
    rfl
  · next some =>
    cases h
    rw [some]
    rfl
  · cases h

/-- A channel is read if it is there. -/
theorem isSome_of_readChannel {id : Option Int} {found : Option Channel}
    (h : Ends (st.readChannel (idText id)) db (.ok found) db) :
    found.isSome = (st.view db (.channel id)).isSome := by
  obtain ⟨_, -, h⟩ := (ReadsOnly.ofBegins _).of_bind h
  obtain ⟨raw, hraw, h⟩ := ((ReadsOnly.ofRead _).guarded _).of_bind h
  have htext : db.text (st.slotKey (.channel id)) = .ok raw :=
    congrArg Prod.fst (Ends.of_guarded hraw)
  rw [view, isSome_of_text htext]
  cases raw with
  | none =>
    cases h
    rfl
  | some raw =>
    obtain ⟨channel, -, h⟩ := Ends.of_ofExcept_bind h
    cases h
    rfl

/-- The channels that are read of a document of links are those of its ids that are there. -/
theorem forall₂_of_readLinks {id : Option Int} {ids : List Int} {channels : List Channel}
    (stored : st.view db (.links id) = some (.text (linksDocument ids)) ∨
      st.view db (.links id) = none ∧ ids = [])
    (h : Ends (st.readLinks (idText id)) db (.ok channels) db) :
    List.Forall₂ (fun c channel => Ends (st.readChannel (idText (some c))) db
      (.ok (some channel)) db)
      (ids.filter fun c => (st.view db (.channel (some c))).isSome) channels := by
  obtain ⟨raw, hraw, h⟩ := Ends.of_read_bind h
  have hraw : db.text (st.slotKey (.links id)) = .ok raw := hraw
  rcases stored with hview | ⟨hview, rfl⟩
  · obtain rfl := Except.ok.inj (hraw.symm.trans (Database.text_eq (x := some _) hview))
    dsimp only at h
    rw [beq_false_of_ne (linksDocument_ne_empty ids), if_neg Bool.false_ne_true] at h
    obtain ⟨texts, htexts, h⟩ := Ends.of_ofExcept_bind h
    obtain ⟨v, hread, -⟩ := exists_of_bind_ok htexts
    have htexts' := linkedIds_linksDocument (Document.storable_of_read hread)
    obtain rfl := Except.ok.inj (htexts.symm.trans htexts')
    obtain ⟨found, hfound, h⟩ :=
      (ReadsOnly.mapList (fun c => .readChannel st c) _).of_bind h
    cases h
    exact forall₂_filterMap (List.forall₂_map_left_iff.mp
      (ReadsOnly.of_mapList (fun c => .readChannel st c) hfound))
      fun c x h => isSome_of_readChannel h
  · obtain rfl := Except.ok.inj (hraw.symm.trans (Database.text_eq (x := none) hview))
    cases h
    exact .nil

/-- An alert that is listed is one that is read under some id. -/
theorem exists_get_of_listAlerts {owner : Json} {as : List Alert}
    (h : Ends (st.listAlerts owner) db (.ok as) db) {a : Alert} (ha : a ∈ as) :
    ∃ id, Ends (st.get id) db (.ok (some a)) db := by
  obtain ⟨_, -, h⟩ := (ReadsOnly.ofBegins _).of_bind h
  have reads : ReadsOnly (do
      let members ← Client.read (.members st.alertsKey)
      let ids ← .ofExcept (sortedIds members)
      Script.mapList st.readAlert (ids.map toString)) :=
    .bind (.ofRead _) fun _ => .ofExcept_bind fun _ => .mapList (.readAlert st) _
  obtain ⟨found, hfound, h⟩ := (reads.guarded _).of_bind h
  cases h
  obtain ⟨members, -, hfound⟩ := Ends.of_read_bind (Ends.of_guarded hfound)
  obtain ⟨ids, -, hfound⟩ := Ends.of_ofExcept_bind hfound
  have each := List.forall₂_map_left_iff.mp (ReadsOnly.of_mapList (.readAlert st) hfound)
  obtain ⟨x, hx, rfl⟩ := List.mem_filterMap.mp (List.mem_of_mem_filter ha)
  obtain ⟨i, hread⟩ := exists_of_mem_right each hx
  rw [toString_eq_idText] at hread
  exact ⟨some i, (ends_begins _).bind (hread.guarded _)⟩

/-! ### Channels that are loaded -/

/-- The channels that an alert is loaded with. -/
def Attached (st : AlertStore) (s : Server) (a : Alert) (ids : List Int) : Prop :=
  ids.Nodup ∧ List.Forall₂
    (fun c channel => (st.answer (.getChannel (some c)) s).1 = .ok (some channel)) ids a.channels

/-- An alert is loaded with the channels that are there of those that it was last set to. -/
theorem exists_attached (dialogue : Dialogue (I := Alerts) st.answer .empty past ⟨db, []⟩)
    {id : Option Int} {a : Alert} (loaded : Ends (st.get id) db (.ok (some a)) db) :
    ∃ ids, st.Attached ⟨db, []⟩ a ids ∧
      ∀ c, c ∈ ids ↔ Linked id c past ∨ SavedSince id c past := by
  obtain ⟨db', same, named, nodup, stored, hnamed⟩ := links_follow dialogue id
  obtain ⟨rfl, -⟩ := Server.mk.inj same
  have each := forall₂_of_readLinks stored (ends_get_iff.mp loaded).channels
  refine ⟨_, ⟨nodup.filter _, each.imp fun c channel h => congrArg Prod.fst h⟩, fun c => ?_⟩
  obtain ⟨db', same, there⟩ := channel_follows dialogue c
  obtain ⟨rfl, -⟩ := Server.mk.inj same
  rw [List.mem_filter, hnamed, there, named_and_saved_iff]

/-- **The channels of an alert.**  Whatever the store was asked before, an alert is loaded with the
channels of its links that are there, each of them once.  These are the channels that were there
when they were linked and have not been removed since, and also those that were linked, whether they
were there or not, and saved since. -/
theorem loaded_channels (dialogue : Dialogue (I := Alerts) st.answer .empty past s) :
    (∀ id a, (st.answer (.get id) s).1 = .ok (some a) →
      ∃ ids, st.Attached s a ids ∧ ∀ c, c ∈ ids ↔ Linked id c past ∨ SavedSince id c past) ∧
      ∀ owner as, ((st.answer (.listAlerts owner) s).1 = .ok as ∨
        (st.answer .listEnabled s).1 = .ok as) →
          ∀ a ∈ as, ∃ id, (st.answer (.get id) s).1 = .ok (some a) := by
  obtain ⟨db, rfl, -⟩ := links_follow dialogue none
  refine ⟨fun id a loaded => ?_, fun owner as listed a ha => ?_⟩
  · obtain ⟨result, ends⟩ := (ReadsOnly.get st id).exists_ends db
    obtain rfl : result = .ok (some a) := (congrArg Prod.fst ends).symm.trans loaded
    exact exists_attached dialogue ends
  · have found : ∃ owner as', Ends (st.listAlerts owner) db (.ok as') db ∧ a ∈ as' := by
      rcases listed with listed | listed
      · obtain ⟨result, ends⟩ := (ReadsOnly.listAlerts st owner).exists_ends db
        obtain rfl : result = .ok as := (congrArg Prod.fst ends).symm.trans listed
        exact ⟨owner, as, ends, ha⟩
      · obtain ⟨result, ends⟩ := (ReadsOnly.listEnabled st).exists_ends db
        obtain rfl : result = .ok as := (congrArg Prod.fst ends).symm.trans listed
        obtain ⟨_, -, ends⟩ := (ReadsOnly.ofBegins _).of_bind ends
        obtain ⟨all, hall, ends⟩ := (ReadsOnly.listAlerts st .null).of_bind ends
        cases ends
        exact ⟨.null, all, hall, List.mem_of_mem_filter ha⟩
    obtain ⟨owner, as', ends, ha⟩ := found
    obtain ⟨id, read⟩ := exists_get_of_listAlerts ends ha
    exact ⟨id, congrArg Prod.fst read⟩

/-- **A channel that is saved for the first time** is loaded with an alert that was linked before to
the id that the channel is given. -/
theorem ends_get_linkedFirst {i n : Int} {a : Alert} {ids : List Int} (there : st.There db i a)
    (counter : Counts n (st.view db .channelCounter)) (set : st.view db .channels = idSet ids)
    (storable : (Json.int n).isStorable) {c : Channel} (new : c.id = none) (hc : c.Storable) :
    ∃ db₁ db₂, Ends (st.setChannels (some i) [n]) db (.ok ()) db₁ ∧
      Ends (st.saveChannel c) db₁ (.ok { c with id := some n }) db₂ ∧
      Ends (st.get (some i)) db₂
        (.ok (some { a with channels := [{ c with id := some n }] })) db₂ := by
  obtain ⟨db₁, hlink, hview⟩ := write_set st db (.links (some i)) (linksDocument [n])
  have left (s : Slot) (hs : s ≠ .links (some i)) : st.view db₁ s = st.view db s := by
    rw [hview, Function.update_of_ne hs]
  have counter : Counts n (st.view db₁ .channelCounter) := by
    rw [left .channelCounter nofun]
    exact counter
  obtain ⟨db₂, hnext, -, hcounted⟩ :=
    ends_nextId (rfl : st.counterKey "channel" = st.slotKey .channelCounter) counter storable
  have stored : Channel.Storable { c with id := some n } := hc.setId storable
  obtain ⟨document, encoded, decoded⟩ := Channel.decode_document stored
  have set : st.view db₂ .channels = idSet ids := by
    rw [hcounted .channels nofun, left .channels nofun]
    exact set
  obtain ⟨db₃, hstore, -, hchannel, hothers⟩ :=
    ends_writeChannel set rfl encoded ("save channel " ++ idText (some n))
  have kept (s : Slot) (hs : s = .alert (some i) ∨ s = .cursor (some i)) :
      st.view db₃ s = st.view db s := by
    rcases hs with rfl | rfl <;>
      rw [hothers _ (by simp), hcounted _ (by simp), left _ (by simp)]
  refine ⟨db₁, db₃, ?_, ?_, ends_get_iff.mpr ⟨?_, ?_, ?_⟩⟩
  · exact (ends_begins _).bind (((ends_write hlink).guarded _).bind (ends_pure ()))
  · rw [saveChannel, new]
    exact (ends_begins _).bind ((hnext.guarded _).bind ((ends_pure _).bind hstore))
  · rw [Database.text_congr (kept (.alert (some i)) (.inl rfl))]
    exact there.keeps.document
  · rw [Database.entries_congr (kept (.cursor (some i)) (.inr rfl))]
    exact there.keeps.cursor
  · have linked : st.view db₃ (.links (some i)) = some (.text (linksDocument [n])) := by
      rw [hothers _ (by simp), hcounted _ (by simp), hview, Function.update_self]
    refine ends_readLinks_stored linked (List.forall_mem_singleton.mpr storable) ?_
    have each (j : Int) (hj : j ∈ [n]) : Ends (st.readChannel (idText (some j))) db₃
        (.ok (some { c with id := some n })) db₃ := by
      obtain rfl := List.mem_singleton.mp hj
      exact ends_readChannel_stored hchannel decoded
    exact ends_readChannels_of_each each

namespace Sample

/-- An alert is linked to a channel that is not there.  Then a channel is saved. -/
def linkedFirst : List AlertRequest :=
  [.save alert false, .setChannels (some 1) [1], .saveChannel channel]

/-- What a server is asked and answers. -/
def serverLinkedFirst : List (Call Alerts) × Server :=
  exchange (I := Alerts) store.answer linkedFirst .empty

theorem serverLinkedFirst_dialogue :
    Dialogue (I := Alerts) store.answer .empty serverLinkedFirst.1 serverLinkedFirst.2 :=
  dialogue_exchange (I := Alerts) linkedFirst

theorem exists_loaded : ∃ a, (store.answer (.get (some 1)) serverLinkedFirst.2).1 = .ok (some a) ∧
    a.channels.map (·.id) = [some 1] := by
  obtain ⟨db, saved, there, mirrors⟩ := exists_there
  have counter : Counts 1 (store.view db .channelCounter) := mirrors .channelCounter
  have none : store.view db .channels = idSet [] := mirrors .channels
  have storable : channel.Storable := ⟨⟨.slack, rfl⟩, by decide⟩
  obtain ⟨db₁, db₂, linked, stored, read⟩ :=
    ends_get_linkedFirst there counter none (by decide) rfl storable
  have linked : (store.answer (.setChannels (some 1) [1]) ⟨db, []⟩).2 = ⟨db₁, []⟩ :=
    congrArg Prod.snd linked
  have stored : (store.answer (.saveChannel channel) ⟨db₁, []⟩).2 = ⟨db₂, []⟩ :=
    congrArg Prod.snd stored
  have last : serverLinkedFirst.2 = ⟨db₂, []⟩ := by
    rw [serverLinkedFirst, snd_exchange, linkedFirst, List.foldl_cons, saved, List.foldl_cons,
      linked, List.foldl_cons, stored, List.foldl_nil]
  rw [last]
  exact ⟨_, congrArg Prod.fst read, rfl⟩

theorem serverLinkedFirst_calls : ∃ x y z, serverLinkedFirst.1 =
    [⟨.save alert false, x⟩, ⟨.setChannels (some 1) [1], y⟩, ⟨.saveChannel channel, z⟩] :=
  ⟨_, _, _, rfl⟩

end Sample

/-- The channel that was saved after it was linked is loaded. -/
theorem loaded_channels_of_linkedFirst :
    ∃ a ids, (Sample.store.answer (.get (some 1)) Sample.serverLinkedFirst.2).1 = .ok (some a) ∧
      Sample.store.Attached Sample.serverLinkedFirst.2 a ids ∧
      ∀ c, c ∈ ids ↔ Linked (some 1) c Sample.serverLinkedFirst.1 ∨
        SavedSince (some 1) c Sample.serverLinkedFirst.1 := by
  obtain ⟨a, loaded, -⟩ := Sample.exists_loaded
  obtain ⟨ids, attached, mem⟩ := (loaded_channels Sample.serverLinkedFirst_dialogue).1 _ a loaded
  exact ⟨a, ids, loaded, attached, mem⟩

/-- A channel that is saved for the first time comes with a link to it. -/
theorem saved_channel_is_attached :
    Dialogue (I := Alerts) Sample.store.answer .empty Sample.serverLinkedFirst.1
        Sample.serverLinkedFirst.2 ∧
      (∃ a, (Sample.store.answer (.get (some 1)) Sample.serverLinkedFirst.2).1 = .ok (some a) ∧
        a.channels.map (·.id) = [some 1]) ∧
      ¬Linked (some 1) 1 Sample.serverLinkedFirst.1 := by
  refine ⟨Sample.serverLinkedFirst_dialogue, Sample.exists_loaded, ?_⟩
  rintro ⟨_, call, after, split, -, -, ⟨first, saving, others, rfl, saves, -⟩, -⟩
  obtain ⟨x, y, z, calls⟩ := Sample.serverLinkedFirst_calls
  rw [calls] at split
  -- the last call alone saves a channel, and the links were set before it
  rcases first with _ | ⟨_, _ | ⟨_, first⟩⟩
  · obtain ⟨rfl, -⟩ := List.cons.inj split
    exact saves.elim
  · obtain ⟨-, split⟩ := List.cons.inj split
    obtain ⟨rfl, -⟩ := List.cons.inj split
    exact saves.elim
  · have length := congrArg List.length split
    simp at length
    omega

end KeyValue.AlertStore

end LogAlert
