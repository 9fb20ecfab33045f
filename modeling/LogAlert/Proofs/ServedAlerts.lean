import LogAlert.Proofs.MirrorProgress
import LogAlert.Proofs.Reloading
import LogAlert.Proofs.Revisions
import LogAlert.Proofs.SharedServer

/-!
# Alerts on a server

An alert store in a key-value server keeps the settings and the cursor of an alert under keys of
their own.  A save writes the one key and a move of the cursor the other, on any data on which the
alert is read and which need not come from an alert store.  An update reaches the cursor as it is
read back from its texts.

## Main definitions

* `Server.EndsAlike` : a script that only reads ends alike on two data.
* `AlertStore.There` : an alert is listed on a server and read.

## Main results

* `AlertStore.ends_get_iff` : what has to be under the keys of an alert for it to be read.
* `Cursor.decode_merged` : a cursor with an update written to its entries.
* `AlertStore.There.save`, `AlertStore.There.move` : one revision of an alert that is there.
-/

namespace LogAlert

open KeyValue AlertStore
open Simulation (Server)
open Simulation.Server

/-! ### Scripts that read -/

namespace Simulation.Server

variable {α β : Type} {db db' db₁ : Database}

/-- A script ends with the same result on two data and changes neither. -/
def EndsAlike (script : Script Client α) (db db' : Database) : Prop :=
  ∃ result, Ends script db result db ∧ Ends script db' result db'

theorem endsAlike_ofExcept (result : Except Failure α) :
    EndsAlike (.ofExcept result) db db' :=
  ⟨result, rfl, rfl⟩

theorem endsAlike_read {r : Read} (h : db'.read r = db.read r) :
    EndsAlike (Client.read r) db db' :=
  ⟨db.read r, rfl, congrArg (fun answer => (answer, (⟨db', []⟩ : Server))) h⟩

theorem EndsAlike.bind {script : Script Client α} {next : α → Script Client β}
    (first : EndsAlike script db db') (second : ∀ a, EndsAlike (next a) db db') :
    EndsAlike (script >>= next) db db' := by
  obtain ⟨_ | a, h, h'⟩ := first
  · exact ⟨_, h.bind_error, h'.bind_error⟩
  · obtain ⟨result, hnext, hnext'⟩ := second a
    exact ⟨result, h.bind hnext, h'.bind hnext'⟩

theorem EndsAlike.guarded {script : Script Client α} (h : EndsAlike script db db')
    (action : String) : EndsAlike (AlertStore.guarded action script) db db' := by
  obtain ⟨result, h, h'⟩ := h
  refine EndsAlike.bind ⟨.ok result, h.attempt, h'.attempt⟩ fun
    | .ok a => endsAlike_ofExcept (.ok a)
    | .error e => endsAlike_ofExcept (.error (storeFailure action e))

theorem endsAlike_mapList {f : β → Script Client α} (h : ∀ b, EndsAlike (f b) db db')
    (bs : List β) : EndsAlike (Script.mapList f bs) db db' := by
  induction bs with
  | nil => exact endsAlike_ofExcept (.ok [])
  | cons b bs ih => exact (h b).bind fun x => ih.bind fun xs => endsAlike_ofExcept (.ok (x :: xs))

/-! ### How a script came to its end -/

theorem Ends.of_guarded {script : Script Client α} {action : String} {a : α}
    (h : Ends (AlertStore.guarded action script) db (.ok a) db₁) :
    Ends script db (.ok a) db₁ := by
  rw [Ends, AlertStore.guarded, Script.run_bind, Script.run_attempt] at h
  rw [Ends]
  generalize script.run (fun r s => answer s r) ⟨db, []⟩ = run at h ⊢
  obtain ⟨_ | x, s⟩ := run
  · cases h
  · exact h

theorem Ends.of_read_bind {r : Read} {next : r.Answer → Script Client α} {a : α}
    (h : Ends (Client.read r >>= next) db (.ok a) db₁) :
    ∃ x, db.read r = .ok x ∧ Ends (next x) db (.ok a) db₁ := by
  have hrun : (Client.read r).run (fun r s => answer s r) ⟨db, []⟩ = (db.read r, ⟨db, []⟩) := rfl
  rw [Ends, Script.run_bind, hrun] at h
  cases hread : db.read r with
  | error e =>
    rw [hread] at h
    cases h
  | ok x =>
    rw [hread] at h
    exact ⟨x, rfl, h⟩

theorem Ends.of_ofExcept_bind {result : Except Failure β} {next : β → Script Client α} {a : α}
    (h : Ends (Script.ofExcept result >>= next) db (.ok a) db₁) :
    ∃ b, result = .ok b ∧ Ends (next b) db (.ok a) db₁ := by
  cases result with
  | error e => cases h
  | ok b => exact ⟨b, rfl, h⟩

end Simulation.Server

/-! ### What is read of an alert -/

namespace KeyValue

namespace Database

variable {db db' : Database} {key : String}

theorem get?_of_text {s : String} (h : db.text key = .ok (some s)) :
    db.get? key = some (.text s) := by
  rw [text] at h
  split at h
  · cases h
  · next hget =>
    rw [hget, Option.some.inj (Except.ok.inj h)]
  · cases h

theorem text_congr (h : db'.get? key = db.get? key) : db'.text key = db.text key := by
  rw [text, h, text]

theorem entries_congr (h : db'.get? key = db.get? key) : db'.entries key = db.entries key := by
  rw [entries, h, entries]

theorem members_congr (h : db'.get? key = db.get? key) : db'.members key = db.members key := by
  rw [members, h, members]

end Database

namespace AlertStore

variable {st : AlertStore} {db db' : Database} {i : Int} {a : Alert}

theorem readChannel_endsAlike {c : String}
    (same : db'.get? (st.channelKey c) = db.get? (st.channelKey c)) :
    EndsAlike (st.readChannel c) db db' :=
  EndsAlike.bind ⟨_, ends_begins _, ends_begins _⟩ fun _ =>
    ((endsAlike_read (r := .get _) (Database.text_congr same)).guarded _).bind fun
      | some raw => (endsAlike_ofExcept (Channel.decode raw)).bind fun c =>
          endsAlike_ofExcept (.ok (some c))
      | none => endsAlike_ofExcept (.ok none)

/-- The linked channels are read from the key of the links and the keys of channels. -/
theorem readLinks_endsAlike {id : String}
    (links : db'.get? (st.linksKey id) = db.get? (st.linksKey id))
    (channels : ∀ c, db'.get? (st.channelKey c) = db.get? (st.channelKey c)) :
    EndsAlike (st.readLinks id) db db' := by
  refine (endsAlike_read (r := .get _) (Database.text_congr links)).bind fun raw => ?_
  cases raw with
  | none => exact endsAlike_ofExcept (.ok [])
  | some raw =>
    dsimp only
    split
    · exact endsAlike_ofExcept (.ok [])
    · exact (endsAlike_ofExcept _).bind fun ids =>
        (endsAlike_mapList (fun c => readChannel_endsAlike (channels c)) ids).bind fun found =>
          endsAlike_ofExcept (.ok _)

/-- What is under the keys of an alert that is read. -/
structure Keeps (st : AlertStore) (db : Database) (id : Option Int) (a : Alert) : Prop where
  document : ∃ raw, db.text (st.slotKey (.alert id)) = .ok (some raw) ∧
    Alert.decode raw = .ok { a with channels := [], cursor := .empty }
  cursor : ∃ entries, db.entries (st.slotKey (.cursor id)) = .ok entries ∧
    Cursor.decode entries = .ok a.cursor
  channels : Ends (st.readLinks (idText id)) db (.ok a.channels) db

theorem decode_bare {raw : String} (h : Alert.decode raw = .ok a) :
    a = { a with channels := [], cursor := .empty } := by
  obtain ⟨document, -, h⟩ := exists_of_bind_ok h
  obtain ⟨fields, -, h⟩ := exists_of_bind_ok h
  obtain ⟨value, -, h⟩ := exists_of_bind_ok h
  obtain ⟨type, -, h⟩ := exists_of_bind_ok h
  obtain ⟨_, -, h⟩ := exists_of_bind_ok h
  cases h
  rfl

/-- **An alert is read** exactly if its document, its cursor and its links are. -/
theorem ends_get_iff {id : Option Int} :
    Ends (st.get id) db (.ok (some a)) db ↔ st.Keeps db id a := by
  constructor
  · intro h
    have hread : Ends (st.readAlert (idText id)) db (.ok (some a)) db := Ends.of_guarded h
    obtain ⟨raw, hraw, h⟩ := hread.of_read_bind
    cases raw with
    | none => cases h
    | some raw =>
      obtain ⟨bare, hbare, h⟩ := Ends.of_ofExcept_bind h
      obtain ⟨entries, hentries, h⟩ := Ends.of_read_bind h
      obtain ⟨cursor, hcursor, h⟩ := Ends.of_ofExcept_bind h
      have linked : EndsAlike (st.readLinks (idText id)) db db :=
        readLinks_endsAlike rfl fun _ => rfl
      obtain ⟨_ | channels, hlinks, -⟩ := linked
      · cases hlinks.bind_error.symm.trans h
      · have hends : Ends (pure (some { bare with cursor, channels })) db (.ok (some a)) db :=
          (Script.run_bind_ok _ hlinks).symm.trans h
        obtain rfl := Option.some.inj (Except.ok.inj (congrArg Prod.fst hends))
        refine ⟨⟨raw, hraw, ?_⟩, ⟨entries, hentries, hcursor⟩, hlinks⟩
        rw [hbare, decode_bare hbare]
  · rintro ⟨⟨raw, hraw, hdecode⟩, ⟨entries, hentries, hcursor⟩, hlinks⟩
    have hbare : Ends (.ofExcept (Alert.decode raw)) db
        (.ok { a with channels := [], cursor := .empty }) db := hdecode ▸ ends_ofExcept _
    have hcursor : Ends (.ofExcept (Cursor.decode entries)) db (.ok a.cursor) db :=
      hcursor ▸ ends_ofExcept _
    have hread : Ends (st.readAlert (idText id)) db (.ok (some a)) db :=
      (ends_read (r := .get _) hraw).bind (hbare.bind ((ends_read (r := .entries _) hentries).bind
        (hcursor.bind (hlinks.bind (ends_pure _)))))
    exact (ends_begins _).bind (hread.guarded _)

end AlertStore

end KeyValue

/-! ### Cursors by their entries -/

namespace Cursor

variable {entries merged : Table String String} {c u : Cursor}

theorem isEmpty_reloaded (c : Cursor) : c.reloaded.isEmpty = c.isEmpty := by
  simp only [isEmpty, reloaded, Option.isNone_map]

/-- A cursor is read from entries if each of its parts is. -/
theorem decode_ok_iff :
    decode entries = .ok c ↔
      part entries "last_seen_log_id" readStoredInt = .ok c.lastSeen ∧
        part entries "last_triggered_at" readStoredMoment = .ok c.lastTriggered ∧
          part entries "last_checked_at" readStoredMoment = .ok c.lastChecked := by
  constructor
  · intro h
    obtain ⟨seen, hseen, h⟩ := exists_of_bind_ok h
    obtain ⟨triggered, htriggered, h⟩ := exists_of_bind_ok h
    obtain ⟨checked, hchecked, h⟩ := exists_of_bind_ok h
    cases h
    exact ⟨hseen, htriggered, hchecked⟩
  · rintro ⟨hseen, htriggered, hchecked⟩
    rw [decode, hseen, htriggered, hchecked]
    rfl

/-- A part is read from what is new under its key, and otherwise from what was there. -/
theorem part_merged {α : Type} {key : String} {new old : Table String String}
    {read : String → Except Failure α} {write : α → String} {reload : α → α} {x y : Option α}
    (merge : merged.get? key = (new.get? key).or (old.get? key))
    (stored : part old key read = .ok x) (written : new.get? key = y.map write)
    (back : y.isSome → part new key read = .ok (y.map reload)) :
    part merged key read = .ok ((y.map reload).or x) := by
  cases y with
  | none =>
    rw [written, Option.map_none, Option.none_or] at merge
    rw [part, merge]
    exact stored
  | some b =>
    rw [written, Option.map_some, Option.some_or, ← Option.map_some, ← written] at merge
    rw [part, merge]
    exact back rfl

/-- **A cursor with an update written to its entries** is read as the cursor after the update, with
the times of the update as they are read back. -/
theorem decode_merged (stored : decode entries = .ok c) (proper : u.Proper)
    (merge : ∀ key,
      merged.get? key = ((c.changes u).encode.get? key).or (entries.get? key)) :
    decode merged = .ok (c.advance u.reloaded) := by
  obtain ⟨hseen, htriggered, hchecked⟩ := decode_ok_iff.mp stored
  obtain ⟨bseen, btriggered, bchecked⟩ :=
    decode_ok_iff.mp (decode_eq_reloaded proper fun _ _ => rfl)
  obtain ⟨wseen, wtriggered, wchecked⟩ := get?_encode (c.changes u)
  obtain ⟨useen, utriggered, uchecked⟩ := get?_encode u
  have seen : part merged "last_seen_log_id" readStoredInt =
      .ok (((c.changes u).lastSeen.map id).or c.lastSeen) := by
    refine part_merged (merge _) hseen wseen fun some => ?_
    -- a record seen that is not dropped is that of the update
    have same : (c.changes u).lastSeen = u.lastSeen := by
      obtain ⟨n, hn⟩ := Option.isSome_iff_exists.mp some
      rw [hn, (Option.filter_eq_some_iff.mp hn).1]
    rw [same] at wseen ⊢
    rw [Option.map_id]
    change part _ _ _ = .ok u.reloaded.lastSeen
    rw [← bseen, part, part, wseen, useen]
  have triggered := part_merged (merge _) htriggered wtriggered fun _ => by
    change part _ _ _ = .ok u.reloaded.lastTriggered
    rw [← btriggered, part, part, wtriggered, utriggered]
    rfl
  have checked := part_merged (merge _) hchecked wchecked fun _ => by
    change part _ _ _ = .ok u.reloaded.lastChecked
    rw [← bchecked, part, part, wchecked, uchecked]
    rfl
  rw [Option.map_id] at seen
  exact decode_ok_iff.mpr ⟨seen, triggered, checked⟩

end Cursor

namespace KeyValue.AlertStore

variable {st : AlertStore} {db db' : Database} {i : Int} {a : Alert}

/-! ### Keys that are written -/

theorem get?_put_slot {s t : Slot} (h : s ≠ t) (x : Stored) :
    (db.put (st.slotKey s) x).get? (st.slotKey t) = db.get? (st.slotKey t) :=
  Table.get?_put_of_ne _ _ (mt slotKey_inj.mp h)

/-- The linked channels are read as before when settings or a cursor are written. -/
theorem Keeps.channels_put {id other : Option Int} (h : st.Keeps db id a) {s : Slot}
    (hs : s = .alert other ∨ s = .cursor other) (x : Stored) :
    Ends (st.readLinks (idText id)) (db.put (st.slotKey s) x) (.ok a.channels)
      (db.put (st.slotKey s) x) := by
  have links : s ≠ .links id := by rcases hs with rfl | rfl <;> simp
  have channels (id : Option Int) : s ≠ .channel id := by rcases hs with rfl | rfl <;> simp
  have alike : EndsAlike (st.readLinks (idText id)) db (db.put (st.slotKey s) x) :=
    readLinks_endsAlike (get?_put_slot links x)
      fun c => Table.get?_put_of_ne _ _ (slotKey_ne_channelKey channels c)
  obtain ⟨result, hends, hends'⟩ := alike
  obtain rfl : result = .ok a.channels := congrArg Prod.fst (hends.symm.trans h.channels)
  exact hends'

/-- An alert is read with the settings of the document that is written. -/
theorem Keeps.put_document {id : Option Int} (h : st.Keeps db id a) {raw : String} {copy : Alert}
    (own : copy.id = a.id)
    (decoded : Alert.decode raw = .ok { copy with channels := [], cursor := .empty }) :
    st.Keeps (db.put (st.slotKey (.alert id)) (.text raw)) id (a.after (.save copy)) where
  document := by
    refine ⟨raw, Database.text_eq (x := some raw) (Table.get?_put_self ..), ?_⟩
    rw [decoded, own]
    rfl
  cursor := by
    rw [Database.entries_congr (get?_put_slot (by simp) _)]
    exact h.cursor
  channels := h.channels_put (.inl rfl) _

/-- An alert is read with the cursor whose entries are written. -/
theorem Keeps.put_cursor {id : Option Int} (h : st.Keeps db id a)
    {entries : Table String String} {c : Cursor} (decoded : Cursor.decode entries = .ok c) :
    st.Keeps (db.put (st.slotKey (.cursor id)) (.hash entries)) id { a with cursor := c } where
  document := by
    rw [Database.text_congr (get?_put_slot (by simp) _)]
    exact h.document
  cursor := ⟨entries, Database.entries_eq (.inl (Table.get?_put_self ..)), decoded⟩
  channels := h.channels_put (.inr rfl) _

/-! ### One revision -/

/-- The data with the document of an alert written to them. -/
abbrev withDocument (st : AlertStore) (db : Database) (i : Int) (document : String) : Database :=
  db.put (st.slotKey (.alert (some i))) (.text document)

/-- The data with changes of a cursor, if there are any, written to its entries. -/
def withChanges (st : AlertStore) (db : Database) (i : Int) (entries : Table String String)
    (changes : Cursor) : Database :=
  if changes.isEmpty then db
  else
    db.put (st.slotKey (.cursor (some i)))
      (.hash (changes.encode.foldl (fun t e => t.put e.1 e.2) entries))

/-- The commands that write the changes of a cursor, if there are any, to its entries. -/
theorem exists_writeAll_withChanges {entries : Table String String}
    (hentries : db.entries (st.slotKey (.cursor (some i))) = .ok entries) (changes : Cursor) :
    ∃ counts, db.writeAll (if changes.isEmpty then []
      else [.putEntries (st.slotKey (.cursor (some i))) changes.encode]) =
        .ok (counts, st.withChanges db i entries changes) := by
  rw [withChanges]
  split
  · exact ⟨[], rfl⟩
  · obtain ⟨n, hput⟩ : ∃ n,
        db.write (.putEntries (st.slotKey (.cursor (some i))) changes.encode) =
          .ok (n, db.put (st.slotKey (.cursor (some i)))
            (.hash (changes.encode.foldl (fun t e => t.put e.1 e.2) entries))) := by
      simp only [Database.write, hentries]
      exact ⟨_, rfl⟩
    exact ⟨_, Database.writeAll_one hput⟩

/-- An alert is there on a server: it is read under its id, and listed. -/
structure There (st : AlertStore) (db : Database) (i : Int) (a : Alert) : Prop where
  id : a.id = some i
  read : Ends (st.get (some i)) db (.ok (some a)) db
  listed : ∃ ids, db.members st.alertsKey = .ok ids ∧ idText (some i) ∈ ids

namespace There

theorem keeps (h : st.There db i a) : st.Keeps db (some i) a :=
  ends_get_iff.mp h.read

/-- Writes elsewhere leave the list of alerts alone. -/
theorem put (h : st.There db i a) {s : Slot} (hs : s ≠ .alerts) {x : Stored} {a' : Alert}
    (id : a'.id = some i) (keeps : st.Keeps (db.put (st.slotKey s) x) (some i) a') :
    st.There (db.put (st.slotKey s) x) i a' where
  id := id
  read := ends_get_iff.mpr keeps
  listed := by
    obtain ⟨ids, hids, listed⟩ := h.listed
    exact ⟨ids, (Database.members_congr (get?_put_slot hs x)).trans hids, listed⟩

/-- A save writes the document of its copy, and nothing else. -/
theorem save (h : st.There db i a) {copy : Alert} (own : copy.id = some i) {document : String}
    (encoded : copy.encode = .ok document)
    (decoded : Alert.decode document = .ok { copy with channels := [], cursor := .empty }) :
    Ends (st.save copy false) db (.ok (some (a.after (.save copy))))
        (st.withDocument db i document) ∧
      st.There (st.withDocument db i document) i (a.after (.save copy)) := by
  have after : st.There (st.withDocument db i document) i (a.after (.save copy)) :=
    h.put (by simp) h.id (h.keeps.put_document (own.trans h.id.symm) decoded)
  refine ⟨?_, after⟩
  obtain ⟨ids, hids, listed⟩ := after.listed
  have hinsert : (st.withDocument db i document).write
      (.insert st.alertsKey (idText (some i))) = .ok (0, st.withDocument db i document) := by
    simp [Database.write, hids, listed, bind, Except.bind]
  have hwrite : db.writeAll (st.saveCommands copy document false) =
      .ok ([1, 0], st.withDocument db i document) := by
    rw [saveCommands, own]
    exact Database.writeAll_cons rfl (Database.writeAll_one hinsert)
  have hencode : Ends (.ofExcept copy.encode) db (.ok document) db := encoded ▸ ends_ofExcept _
  have hread := own.symm ▸ after.read
  rw [AlertStore.save, own]
  exact (ends_begins _).bind ((ends_pure _).bind (hencode.bind
    (((ends_transact hwrite).guarded _).bind hread)))

/-- A move writes the changes to the entries of the cursor, if there are any, and nothing else.
What is answered has the times of the update, and what is there has them as they are read back. -/
theorem move (h : st.There db i a) (attempts : 0 < st.attempts) {copy : Alert} {u : Cursor}
    (own : copy.id = some i) (proper : u.Proper)
    {entries : Table String String}
    (hentries : db.entries (st.slotKey (.cursor (some i))) = .ok entries)
    (stored : Cursor.decode entries = .ok a.cursor) :
    Ends (st.updateCursor copy u) db (.ok { copy with cursor := a.cursor.advance u })
        (st.withChanges db i entries (a.cursor.changes u)) ∧
      st.There (st.withChanges db i entries (a.cursor.changes u)) i
        (a.after (.move copy u.reloaded)) := by
  constructor
  · have hexists : Ends (st.checkExists (some i)) db (.ok ()) db := by
      obtain ⟨raw, hraw, -⟩ := h.keeps.document
      have hview : (st.view db (.alert (some i))).isSome = true := by
        rw [view, Database.get?_of_text hraw]
        rfl
      exact (ends_read_has hview).bind (ends_pure ())
    have hdecode : Ends (.ofExcept (Cursor.decode entries)) db (.ok a.cursor) db :=
      stored ▸ ends_ofExcept _
    obtain ⟨counts, hwrite⟩ := exists_writeAll_withChanges hentries (a.cursor.changes u)
    have htry : Ends (st.tryUpdateCursor copy u) db
        (.ok { copy with cursor := a.cursor.advance u })
        (st.withChanges db i entries (a.cursor.changes u)) := by
      rw [tryUpdateCursor, own]
      exact (ends_watch _).bind (hexists.bind ((ends_read (r := .entries _) hentries).bind
        (hdecode.bind ((ends_commit hwrite).bind (ends_pure _)))))
    exact (ends_begins _).bind (htry.retry _ _ (by omega))
  · rw [withChanges]
    by_cases empty : (a.cursor.changes u).isEmpty
    · have unchanged : (a.cursor.changes u.reloaded).isEmpty :=
        (a.cursor.changes u).isEmpty_reloaded.trans empty
      have same : a.after (.move copy u.reloaded) = a :=
        congrArg (fun c => { a with cursor := c }) (a.cursor.write_of_isEmpty unchanged)
      rw [if_pos empty, same]
      exact h
    · rw [if_neg empty]
      exact h.put (by simp) h.id (h.keeps.put_cursor (Cursor.decode_merged stored proper
        (Table.get?_foldl_put _ (Cursor.nodup_keys_encode _) entries)))

end There

end KeyValue.AlertStore

end LogAlert
