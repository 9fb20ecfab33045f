import Mathlib.Data.List.Basic
import LogAlert.Proofs.Script
import LogAlert.Proofs.StoreKeys
import LogAlert.Proofs.Table
import LogAlert.Simulation.Server

/-!
# Commands of a server without failures

A server for which no failure is planned answers every command that fits its data.  How a script
ends on such a server follows from how its parts end; and what a command does to the data is a
change of the slots of a store that the command names, and of no others.

## Main definitions

* `Server.Ends` : how a script ends on the data of a server without planned failures.
* `AlertStore.view` : what is stored in each slot of a store.
* `idSet` : what is stored for a set of ids.

## Main results

* `Server.Ends.bind`, `Server.Ends.guarded`, `Server.Ends.retry`, … : the rules for scripts.
* `AlertStore.write_set`, `AlertStore.write_insert`, … : the rules for writing commands.
-/

namespace LogAlert

open KeyValue

/-! ### Scripts -/

namespace Simulation.Server

variable {α β : Type} {db db₁ db₂ : Database}

/-- On a server with the data `db` and without planned failures the script ends with the result
and leaves the data `db'`. -/
def Ends (script : Script Client α) (db : Database) (result : Except Failure α)
    (db' : Database) : Prop :=
  script.run (fun r s => answer s r) ⟨db, []⟩ = (result, ⟨db', []⟩)

theorem ends_pure (a : α) : Ends (pure a) db (.ok a) db := rfl

theorem ends_ofExcept (result : Except Failure α) : Ends (.ofExcept result) db result db := rfl

theorem ends_begins (operation : String) : Ends (Client.begins operation) db (.ok ()) db := rfl

theorem ends_watch (keys : List String) : Ends (Client.watch keys) db (.ok ()) db := rfl

theorem ends_read {r : Read} {x : r.Answer} (h : db.read r = .ok x) :
    Ends (Client.read r) db (.ok x) db :=
  congrArg (fun answer => (answer, (⟨db, []⟩ : Server))) h

theorem ends_write {w : Write} {n : Int} (h : db.write w = .ok (n, db₁)) :
    Ends (Client.write w) db (.ok n) db₁ := by
  change respond ⟨db, []⟩ (.write w) = _
  rw [respond]
  dsimp only
  rw [h]

theorem apply_eq {ws : List Write} {counts : List Int} (h : db.writeAll ws = .ok (counts, db₁)) :
    apply ⟨db, []⟩ ws = (.ok counts, ⟨db₁, []⟩) := by
  rw [apply]
  dsimp only
  rw [h]

theorem ends_transact {ws : List Write} {counts : List Int}
    (h : db.writeAll ws = .ok (counts, db₁)) : Ends (Client.transact ws) db (.ok counts) db₁ :=
  apply_eq h

theorem ends_commit {ws : List Write} {counts : List Int}
    (h : db.writeAll ws = .ok (counts, db₁)) : Ends (Client.commit ws) db (.ok counts) db₁ :=
  apply_eq h

/-- One script after the other. -/
theorem Ends.bind {script : Script Client α} {next : α → Script Client β} {a : α}
    {result : Except Failure β} (first : Ends script db (.ok a) db₁)
    (second : Ends (next a) db₁ result db₂) : Ends (script >>= next) db result db₂ :=
  (Script.run_bind_ok _ first).trans second

/-- A failure ends a script. -/
theorem Ends.bind_error {script : Script Client α} {next : α → Script Client β} {e : Failure}
    (first : Ends script db (.error e) db₁) : Ends (script >>= next) db (.error e) db₁ :=
  Script.run_bind_error _ first

theorem Ends.attempt {script : Script Client α} {result : Except Failure α}
    (h : Ends script db result db₁) : Ends script.attempt db (.ok result) db₁ := by
  rw [Ends, Script.run_attempt, h]

theorem Ends.map {script : Script Client α} {a : α} (h : Ends script db (.ok a) db₁) (f : α → β) :
    Ends (f <$> script) db (.ok (f a)) db₁ :=
  h.bind (ends_pure (f a))

theorem Ends.guarded {script : Script Client α} {a : α} (h : Ends script db (.ok a) db₁)
    (action : String) : Ends (AlertStore.guarded action script) db (.ok a) db₁ :=
  h.attempt.bind (ends_pure a)

/-- A script that ends well is tried once. -/
theorem Ends.retry {script : Script Client α} {a : α} (h : Ends script db (.ok a) db₁)
    (action : String) (lost : Failure) {n : Nat} (hn : n ≠ 0) :
    Ends (AlertStore.retry action lost script n) db (.ok a) db₁ := by
  obtain ⟨m, rfl⟩ := Nat.exists_eq_succ_of_ne_zero hn
  exact h.attempt.bind (ends_pure a)

/-- A script is tried once if its failure is that of a store. -/
theorem Ends.retry_store {script : Script Client α} {message : String}
    (h : Ends script db (.error (.store message)) db₁) (action : String) (lost : Failure) {n : Nat}
    (hn : n ≠ 0) :
    Ends (AlertStore.retry action lost script n) db (.error (.store message)) db₁ := by
  obtain ⟨m, rfl⟩ := Nat.exists_eq_succ_of_ne_zero hn
  exact h.attempt.bind rfl

/-- Scripts that only read, one for each of several items. -/
theorem ends_mapList {γ : Type} {f : α → Script Client β} {item : γ → α} {g : γ → β}
    {cs : List γ} (h : ∀ c ∈ cs, Ends (f (item c)) db (.ok (g c)) db) :
    Ends (Script.mapList f (cs.map item)) db (.ok (cs.map g)) db := by
  induction cs with
  | nil => rfl
  | cons c cs ih =>
    obtain ⟨head, tail⟩ := List.forall_mem_cons.mp h
    exact head.bind ((ih tail).bind (ends_pure _))

end Simulation.Server

/-! ### Data by slots -/

namespace KeyValue

/-- What is stored for a set of ids. -/
def idSet (ids : List Int) : Option Stored :=
  if ids.isEmpty then none else some (.set (ids.map fun i => idText (some i)))

/-- What is stored for a list of texts. -/
def textList (items : List String) : Option Stored :=
  if items.isEmpty then none else some (.list items)

/-- A table is stored under a key, or nothing if it has no entries. -/
def HoldsEntries (entries : Table String String) (x : Option Stored) : Prop :=
  x = some (.hash entries) ∨ x = none ∧ entries = []

/-- A counter is stored that gives the id next. -/
def Counts (next : Int) (x : Option Stored) : Prop :=
  x = none ∧ next = 1 ∨ 1 < next ∧ x = some (.text (idText (some (next - 1))))

namespace Database

variable {db db₁ db₂ : Database} {key : String}

theorem members_eq {ids : List Int} (h : db.get? key = idSet ids) :
    db.members key = .ok (ids.map fun i => idText (some i)) := by
  rw [members, h, idSet]
  cases ids <;> rfl

theorem items_eq {items : List String} (h : db.get? key = textList items) :
    db.items key = .ok items := by
  rw [Database.items, h, textList]
  cases items <;> rfl

theorem entries_eq {entries : Table String String} (h : HoldsEntries entries (db.get? key)) :
    db.entries key = .ok entries := by
  rw [Database.entries]
  rcases h with h | ⟨h, rfl⟩ <;> rw [h]

theorem text_eq {x : Option String} (h : db.get? key = x.map .text) : db.text key = .ok x := by
  rw [text, h]
  cases x <;> rfl

theorem writeAll_cons {w : Write} {ws : List Write} {n : Int} {counts : List Int}
    (first : db.write w = .ok (n, db₁)) (others : db₁.writeAll ws = .ok (counts, db₂)) :
    db.writeAll (w :: ws) = .ok (n :: counts, db₂) := by
  rw [writeAll, first]
  change (db₁.writeAll ws).bind _ = _
  rw [others]
  rfl

theorem writeAll_one {w : Write} {n : Int} (h : db.write w = .ok (n, db₁)) :
    db.writeAll [w] = .ok ([n], db₁) :=
  writeAll_cons h rfl

/-- Keys that are removed one after the other. -/
theorem get?_foldl_erase (keys : List String) (db : Database) (key : String) :
    Table.get? (keys.foldl (fun db key => Table.erase key db) db) key =
      if key ∈ keys then none else db.get? key := by
  induction keys generalizing db with
  | nil => rfl
  | cons k keys ih =>
    rw [List.foldl_cons, ih, Table.get?_erase]
    by_cases hmem : key ∈ keys
    · rw [if_pos hmem, if_pos (List.mem_cons_of_mem k hmem)]
    · by_cases hk : k = key
      · rw [if_neg hmem, if_pos (beq_iff_eq.mpr hk), if_pos (List.mem_cons.mpr (.inl hk.symm))]
      · rw [if_neg hmem, if_neg (mt beq_iff_eq.mp hk),
          if_neg (not_or.mpr ⟨Ne.symm hk, hmem⟩ ∘ List.mem_cons.mp)]

/-- After a removal of keys nothing is under them, and all other keys are as before. -/
theorem get?_delete (db : Database) (keys : List String) :
    ∃ n db', db.write (.delete keys) = .ok (n, db') ∧
      ∀ key, db'.get? key = if key ∈ keys then none else db.get? key := by
  refine ⟨_, _, rfl, fun key => ?_⟩
  rw [get?_foldl_erase]
  by_cases hkey : key ∈ keys
  · rw [if_pos hkey]
    by_cases present : db.has key
    · rw [if_pos (List.mem_filter.mpr ⟨List.mem_eraseDups.mpr hkey, present⟩)]
    · rw [Table.has_eq_isSome, Option.not_isSome_iff_eq_none] at present
      rw [present, ite_self]
  · rw [if_neg hkey, if_neg fun h => hkey (List.mem_eraseDups.mp (List.mem_filter.mp h).1)]

end Database

namespace AlertStore

/-- What is stored in a slot. -/
def view (st : AlertStore) (db : Database) (s : Slot) : Option Stored :=
  db.get? (st.slotKey s)

variable {st : AlertStore} {db : Database} {s : Slot}

/-! ### Reading -/

open Simulation.Server (Ends ends_read)

theorem ends_read_get {x : Option String} (h : st.view db s = x.map .text) :
    Ends (Client.read (.get (st.slotKey s))) db (.ok x) db :=
  ends_read (r := .get (st.slotKey s)) (Database.text_eq h)

theorem ends_read_has {found : Bool} (h : (st.view db s).isSome = found) :
    Ends (Client.read (.has (st.slotKey s))) db (.ok found) db :=
  ends_read (r := .has (st.slotKey s)) (congrArg Except.ok ((Table.has_eq_isSome ..).trans h))

theorem ends_read_entries {entries : Table String String}
    (h : HoldsEntries entries (st.view db s)) :
    Ends (Client.read (.entries (st.slotKey s))) db (.ok entries) db :=
  ends_read (r := .entries (st.slotKey s)) (Database.entries_eq h)

theorem ends_read_members {ids : List Int} (h : st.view db s = idSet ids) :
    Ends (Client.read (.members (st.slotKey s))) db
      (.ok (ids.map fun i => idText (some i))) db :=
  ends_read (r := .members (st.slotKey s)) (Database.members_eq h)

theorem ends_read_range {items : List String} (h : st.view db s = textList items)
    (start stop : Int) :
    Ends (Client.read (.range (st.slotKey s) start stop)) db
      (.ok (rangeOf start stop items)) db :=
  ends_read (r := .range (st.slotKey s) start stop)
    (congrArg (Except.map (rangeOf start stop)) (Database.items_eq h))

/-! ### Writing -/

theorem view_put (x : Stored) :
    st.view (db.put (st.slotKey s) x) = Function.update (st.view db) s (some x) := by
  funext t
  rw [view, Table.get?_put, Function.update_apply]
  by_cases h : t = s
  · rw [if_pos h, if_pos (beq_iff_eq.mpr (slotKey_inj.mpr h.symm))]
  · rw [if_neg h, if_neg fun hkey => h (slotKey_inj.mp (beq_iff_eq.mp hkey)).symm]
    rfl

theorem view_erase :
    st.view (Table.erase (st.slotKey s) db) = Function.update (st.view db) s none := by
  funext t
  rw [view, Table.get?_erase, Function.update_apply]
  by_cases h : t = s
  · rw [if_pos h, if_pos (beq_iff_eq.mpr (slotKey_inj.mpr h.symm))]
  · rw [if_neg h, if_neg fun hkey => h (slotKey_inj.mp (beq_iff_eq.mp hkey)).symm]
    rfl

theorem write_set (st : AlertStore) (db : Database) (s : Slot) (value : String) :
    ∃ db', db.write (.set (st.slotKey s) value) = .ok (1, db') ∧
      st.view db' = Function.update (st.view db) s (some (.text value)) :=
  ⟨_, rfl, view_put _⟩

/-- An id is among the texts of ids if it is among the ids. -/
theorem contains_idText (ids : List Int) (id : Option Int) :
    (ids.map fun i => idText (some i)).contains (idText id) = true ↔ id ∈ ids.map some := by
  rw [List.contains_iff_mem, List.mem_map, List.mem_map]
  refine exists_congr fun i => and_congr_right fun _ => ?_
  exact ⟨fun h => idText_injective h, fun h => h ▸ rfl⟩

theorem write_insert {ids : List Int} (h : st.view db s = idSet ids) (i : Int) :
    ∃ n db', db.write (.insert (st.slotKey s) (idText (some i))) = .ok (n, db') ∧
      st.view db' = Function.update (st.view db) s
        (idSet (if i ∈ ids then ids else ids ++ [i])) := by
  have hcontains := (contains_idText ids (some i)).trans
    (List.mem_map_of_injective (Option.some_injective Int))
  simp only [Database.write, Database.members_eq h, bind, Except.bind]
  by_cases hmem : i ∈ ids
  · rw [if_pos (hcontains.mpr hmem), if_pos hmem, ← h, Function.update_eq_self]
    exact ⟨_, _, rfl, rfl⟩
  · rw [if_neg (mt hcontains.mp hmem), if_neg hmem]
    refine ⟨_, _, rfl, (view_put _).trans ?_⟩
    rw [idSet, List.map_append, if_neg (by simp)]
    rfl

theorem write_remove {ids : List Int} (h : st.view db s = idSet ids) (id : Option Int) :
    ∃ db', db.write (.remove (st.slotKey s) (idText id)) =
        .ok (if id ∈ ids.map some then 1 else 0, db') ∧
      st.view db' = Function.update (st.view db) s
        (idSet (ids.filter fun i => some i != id)) := by
  have hcontains := contains_idText ids id
  simp only [Database.write, Database.members_eq h, bind, Except.bind]
  have hfilter : (ids.map fun i => idText (some i)).filter (· != idText id) =
      (ids.filter fun i => some i != id).map fun i => idText (some i) := by
    rw [List.filter_map]
    congr 1
    refine List.filter_congr fun i _ => ?_
    rw [Bool.eq_iff_iff, Function.comp, bne_iff_ne, bne_iff_ne]
    exact ⟨fun h heq => h (heq ▸ rfl), fun h heq => h (idText_injective heq)⟩
  by_cases hmem : id ∈ ids.map some
  · rw [if_pos (hcontains.mpr hmem), if_pos hmem, hfilter, List.isEmpty_map]
    refine ⟨_, rfl, ?_⟩
    rw [idSet]
    split
    · exact view_erase
    · exact view_put _
  · rw [if_neg (mt hcontains.mp hmem), if_neg hmem]
    have hsame : (ids.filter fun i => some i != id) = ids := by
      refine List.filter_eq_self.mpr fun i hi => bne_iff_ne.mpr fun heq => hmem ?_
      exact heq ▸ List.mem_map_of_mem hi
    refine ⟨_, rfl, ?_⟩
    rw [hsame, ← h, Function.update_eq_self]

theorem write_delete (st : AlertStore) (db : Database) (slots : List Slot) :
    ∃ n db', db.write (.delete (slots.map st.slotKey)) = .ok (n, db') ∧
      ∀ t, st.view db' t = if t ∈ slots then none else st.view db t := by
  obtain ⟨n, db', hwrite, hget⟩ := db.get?_delete (slots.map st.slotKey)
  refine ⟨n, db', hwrite, fun t => ?_⟩
  rw [view, hget]
  exact if_congr (List.mem_map_of_injective fun _ _ => slotKey_inj.mp) rfl rfl

theorem write_putEntries {old new : Table String String} (h : HoldsEntries old (st.view db s))
    (nodup : new.keys.Nodup) :
    ∃ n db' entries, db.write (.putEntries (st.slotKey s) new) = .ok (n, db') ∧
      st.view db' = Function.update (st.view db) s (some (.hash entries)) ∧
        ∀ key, entries.get? key = (new.get? key).or (old.get? key) := by
  simp only [Database.write, Database.entries_eq h]
  exact ⟨_, _, _, rfl, view_put _, Table.get?_foldl_put new nodup old⟩

theorem write_increment {next : Int} (h : Counts next (st.view db s))
    (storable : (Json.int next).isStorable) :
    ∃ db', db.write (.increment (st.slotKey s)) = .ok (next, db') ∧ 1 ≤ next ∧
      st.view db' = Function.update (st.view db) s (some (.text (idText (some next)))) := by
  have read : ∃ x, db.text (st.slotKey s) = .ok x ∧ Database.counter x = .ok (next - 1) ∧
      1 ≤ next := by
    rcases h with ⟨hview, rfl⟩ | ⟨hlt, hview⟩
    · exact ⟨none, Database.text_eq hview, rfl, Int.le_refl 1⟩
    · refine ⟨some _, Database.text_eq hview, ?_, Int.le_of_lt hlt⟩
      have hle : (next - 1).natAbs ≤ next.natAbs := by omega
      change Cursor.readStoredInt (idText (some (next - 1))) = _
      rw [idText_some, Cursor.readStoredInt_intText (Json.isStorable_int_of_le hle storable)]
  obtain ⟨x, htext, hcounter, pos⟩ := read
  simp only [Database.write, htext, hcounter, bind, Except.bind]
  refine ⟨_, congrArg Except.ok (Prod.ext (Int.sub_add_cancel next 1) rfl), pos, ?_⟩
  rw [view_put, Int.sub_add_cancel, toString_eq_idText]

theorem write_push {items : List String} (h : st.view db s = textList items) (item : String) :
    ∃ n db', db.write (.push (st.slotKey s) item) = .ok (n, db') ∧
      st.view db' = Function.update (st.view db) s (textList (items ++ [item])) := by
  simp only [Database.write, Database.items_eq h]
  refine ⟨_, _, rfl, (view_put _).trans ?_⟩
  rw [textList, if_neg (by simp)]

end AlertStore

end KeyValue

end LogAlert
