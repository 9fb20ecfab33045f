import LogAlert.Proofs.Dialogues
import LogAlert.Proofs.SharedOperations
import LogAlert.Proofs.StoreAgreement

/-!
# What operations do to the parts of a store

An alert store in a key-value server that raises no error and that nobody else writes to.  Each part
of the store is written by a few operations, whatever the server holds.  An operation that fails
leaves the links, the triggers and the channels as they were.

## Main definitions

* `AlertStore.Turns` : what becomes of a part of the store when a script returns; if it fails, the
  part is as before.
* `AlertStore.Leaves` : the part is as before in any case.
* `AlertRequest.Touches` : the parts that an operation writes to.

## Main results

* `Leaves.bind`, `Turns.guarded`, `Turns.retry`, … : the rules for scripts.
* `leaves_serve` : operations leave the other parts alone.
* `turns_setChannels`, `turns_createHistory`, `turns_saveChannel`, … : what they do to links,
  triggers and channels.
-/

namespace LogAlert

open KeyValue AlertStore
open Simulation (Server)
open Simulation.Server

/-- What an alert store is asked, and what it answers. -/
abbrev Alerts : Interface where
  Request := AlertRequest
  Answer := AlertRequest.Answer

/-- The parts of a store that an operation writes to. -/
def AlertRequest.Touches : AlertRequest → Slot → Prop
  | .save .., s => s = .alertCounter ∨ s = .alerts ∨ ∃ id, s = .alert id ∨ s = .cursor id
  | .delete id, s => s ∈ [.alerts, .alert id, .links id, .cursor id, .history id]
  | .setChannels id _, s => s = .links id
  | .updateCursor a _, s => s = .cursor a.id
  | .createHistory a .., s => s ∈ [.historyCounter, .history a.id]
  | .saveChannel _, s => s = .channelCounter ∨ s = .channels ∨ ∃ id, s = .channel id
  | .deleteChannel id, s => s ∈ [.channels, .channel id]
  | _, _ => False

namespace KeyValue

variable {α β : Type} {st : AlertStore} {s : Slot} {db db' : Database}

namespace ReadsOnly

theorem checkExists (st : AlertStore) (id : Option Int) : ReadsOnly (st.checkExists id) :=
  bind (ofRead _) fun found => by cases found <;> exact .done _

/-- A script that only reads ends, and leaves all data as they are. -/
theorem exists_ends {script : Script Client α} (h : ReadsOnly script) (db : Database) :
    ∃ result, Ends script db result db := by
  induction h with
  | done result => exact ⟨result, rfl⟩
  | read _ ih => exact ih _
  | begins _ ih => exact ih _

/-- A script that only reads, and what follows it. -/
theorem of_bind {script : Script Client α} {next : α → Script Client β} (h : ReadsOnly script)
    {b : β} (ends : Ends (script >>= next) db (.ok b) db') :
    ∃ a, Ends script db (.ok a) db ∧ Ends (next a) db (.ok b) db' := by
  obtain ⟨_ | a, first⟩ := h.exists_ends db
  · cases first.bind_error.symm.trans ends
  · exact ⟨a, first, (Script.run_bind_ok _ first).symm.trans ends⟩

/-- Scripts that only read, one for each of several items. -/
theorem of_mapList {f : α → Script Client β} (h : ∀ a, ReadsOnly (f a)) {as : List α}
    {bs : List β} (ends : Ends (Script.mapList f as) db (.ok bs) db') :
    List.Forall₂ (fun a b => Ends (f a) db (.ok b) db) as bs := by
  induction as generalizing bs with
  | nil =>
    cases ends
    exact .nil
  | cons a as ih =>
    obtain ⟨b, first, ends⟩ := (h a).of_bind ends
    obtain ⟨bs, others, ends⟩ := (mapList h as).of_bind ends
    cases ends
    exact .cons first (ih others)

end ReadsOnly

namespace AlertStore

/-! ### Scripts -/

/-- On any data the script ends.  If it returns, what is in the slot becomes something else as `R`
says, and if it fails, the slot is as before. -/
def Turns (st : AlertStore) (s : Slot) (script : Script Client α)
    (R : α → Option Stored → Option Stored → Prop) : Prop :=
  ∀ db, ∃ result db', Ends script db result db' ∧
    match result with
    | .ok a => R a (st.view db s) (st.view db' s)
    | .error _ => st.view db' s = st.view db s

/-- On any data the script ends, and leaves the slot as it was. -/
def Leaves (st : AlertStore) (s : Slot) (script : Script Client α) : Prop :=
  st.Turns s script fun _ x y => y = x

variable {R R' : α → Option Stored → Option Stored → Prop} {script : Script Client α}

theorem Turns.imp (h : st.Turns s script R) (imp : ∀ a x y, R a x y → R' a x y) :
    st.Turns s script R' := by
  intro db
  obtain ⟨result, db', ends, turned⟩ := h db
  refine ⟨result, db', ends, ?_⟩
  cases result with
  | error e => exact turned
  | ok a => exact imp a _ _ turned

theorem leaves_ofExcept (result : Except Failure α) : st.Leaves s (.ofExcept result) := by
  intro db
  refine ⟨result, db, rfl, ?_⟩
  cases result <;> rfl

theorem leaves_of_readsOnly (h : ReadsOnly script) : st.Leaves s script := by
  intro db
  obtain ⟨result, ends⟩ := h.exists_ends db
  refine ⟨result, db, ends, ?_⟩
  cases result <;> rfl

theorem Leaves.bind {next : α → Script Client β} {R : β → Option Stored → Option Stored → Prop}
    (first : st.Leaves s script) (second : ∀ a, st.Turns s (next a) R) :
    st.Turns s (script >>= next) R := by
  intro db
  obtain ⟨_ | a, db₁, ends, left⟩ := first db
  · exact ⟨_, db₁, ends.bind_error, left⟩
  · obtain ⟨result, db₂, ends', turned⟩ := second a db₁
    have left : st.view db₁ s = st.view db s := left
    rw [left] at turned
    exact ⟨result, db₂, ends.bind ends', turned⟩

/-- What is done with the result of a script, without further requests. -/
theorem Turns.map {R : β → Option Stored → Option Stored → Prop} {f : α → β}
    (h : st.Turns s script fun a => R (f a)) : st.Turns s (f <$> script) R := by
  intro db
  obtain ⟨_ | a, db', ends, turned⟩ := h db
  · exact ⟨_, db', ends.bind_error, turned⟩
  · exact ⟨_, db', ends.map f, turned⟩

theorem Turns.guarded (h : st.Turns s script R) (action : String) :
    st.Turns s (guarded action script) R := by
  intro db
  obtain ⟨_ | a, db', ends, turned⟩ := h db
  · exact ⟨_, db', ends.attempt.bind rfl, turned⟩
  · exact ⟨_, db', ends.guarded action, turned⟩

/-- A try that fails leaves the slot to the next one as it was. -/
theorem Turns.retry (h : st.Turns s script R) (action : String) (lost : Failure) (n : Nat) :
    st.Turns s (retry action lost script n) R := by
  induction n with
  | zero => exact fun db => ⟨_, db, rfl, rfl⟩
  | succ n ih =>
    intro db
    obtain ⟨e | a, db₁, ends, turned⟩ := h db
    · have turned : st.view db₁ s = st.view db s := turned
      by_cases race : e.isRace
      · obtain ⟨result, db₂, again, turned'⟩ := ih db₁
        rw [turned] at turned'
        refine ⟨result, db₂, ends.attempt.bind ?_, turned'⟩
        dsimp only
        rwa [if_pos race]
      · refine ⟨.error (storeFailure action e), db₁, ends.attempt.bind ?_, turned⟩
        dsimp only
        rw [if_neg race]
        rfl
    · exact ⟨_, db₁, ends.attempt.bind (ends_pure a), turned⟩

/-! ### Requests -/

theorem leaves_begins (operation : String) : st.Leaves s (Client.begins operation) :=
  leaves_of_readsOnly (.ofBegins operation)

theorem leaves_read (r : Read) : st.Leaves s (Client.read r) :=
  leaves_of_readsOnly (.ofRead r)

theorem leaves_watch (keys : List String) : st.Leaves s (Client.watch keys) :=
  fun db => ⟨_, db, rfl, rfl⟩

theorem apply_error {ws : List Write} {e : Failure} (h : db.writeAll ws = .error e) :
    apply ⟨db, []⟩ ws = (.error e, ⟨db, []⟩) := by
  rw [apply]
  dsimp only
  rw [h]

/-- Commands that are applied together, or not at all. -/
theorem turns_transact {ws : List Write} {R : List Int → Option Stored → Option Stored → Prop}
    (h : ∀ db counts db', db.writeAll ws = .ok (counts, db') →
      R counts (st.view db s) (st.view db' s)) : st.Turns s (Client.transact ws) R := by
  intro db
  cases write : db.writeAll ws with
  | error e => exact ⟨.error e, db, apply_error write, rfl⟩
  | ok result => exact ⟨.ok result.1, result.2, ends_transact write, h _ _ _ write⟩

theorem turns_commit {ws : List Write} {R : List Int → Option Stored → Option Stored → Prop}
    (h : ∀ db counts db', db.writeAll ws = .ok (counts, db') →
      R counts (st.view db s) (st.view db' s)) : st.Turns s (Client.commit ws) R :=
  turns_transact h

theorem turns_write {w : Write} {R : Int → Option Stored → Option Stored → Prop}
    (h : ∀ db n db', db.write w = .ok (n, db') → R n (st.view db s) (st.view db' s)) :
    st.Turns s (Client.write w) R := by
  intro db
  cases write : db.write w with
  | error e =>
    refine ⟨.error e, db, ?_, rfl⟩
    change respond ⟨db, []⟩ (.write w) = _
    rw [respond]
    dsimp only
    rw [write]
  | ok result => exact ⟨.ok result.1, result.2, ends_write write, h _ _ _ write⟩

theorem leaves_write {w : Write} (t : Slot) (key : w.keys = [st.slotKey t]) (other : s ≠ t) :
    st.Leaves s (Client.write w) :=
  turns_write fun _ _ _ write => Database.get?_of_write write (by simpa [key, slotKey_inj])

/-- Commands leave a slot alone that they do not name. -/
theorem view_of_slots {ws : List Write} {counts : List Int}
    (write : db.writeAll ws = .ok (counts, db')) (slots : List Slot)
    (keys : keysOf ws = slots.map st.slotKey) (other : s ∉ slots) :
    st.view db' s = st.view db s :=
  view_of_writeAll write fun hkey => other (slotKey_mem.mp (keys ▸ hkey))

theorem leaves_transact {ws : List Write} (slots : List Slot)
    (keys : keysOf ws = slots.map st.slotKey) (other : s ∉ slots) :
    st.Leaves s (Client.transact ws) :=
  turns_transact fun _ _ _ write => view_of_slots write slots keys other

theorem leaves_commit {ws : List Write} (slots : List Slot)
    (keys : keysOf ws = slots.map st.slotKey) (other : s ∉ slots) :
    st.Leaves s (Client.commit ws) :=
  leaves_transact slots keys other

/-! ### Operations -/

theorem leaves_save {a : Alert} {resetBaseline : Bool}
    (h : ¬(AlertRequest.save a resetBaseline).Touches s) :
    st.Leaves s (st.save a resetBaseline) := by
  simp only [AlertRequest.Touches, not_or, not_exists] at h
  obtain ⟨counter, alerts, own⟩ := h
  have stores (a : Alert) (resetBaseline : Bool) : st.Leaves s (do
      let document ← .ofExcept a.encode
      let _ ← guarded ("save alert " ++ idText a.id)
        (Client.transact (st.saveCommands a document resetBaseline))
      st.get a.id) := by
    refine (leaves_ofExcept _).bind fun document => ?_
    obtain ⟨slots, keys, hslots⟩ := slots_saveCommands st a document resetBaseline
    refine Leaves.bind ((leaves_transact slots keys fun hs => ?_).guarded _) fun _ =>
      leaves_of_readsOnly (.get st _)
    rcases hslots s hs with rfl | rfl | ⟨-, rfl⟩
    · exact (own _).1 rfl
    · exact alerts rfl
    · exact (own _).2 rfl
  refine (leaves_begins _).bind fun _ => ?_
  cases a.id with
  | some i => exact stores a resetBaseline
  | none =>
    have counted : st.Leaves s (st.nextId "alert") :=
      leaves_write .alertCounter rfl counter
    exact Leaves.bind (counted.guarded _) fun i => stores { a with id := some i } true

theorem leaves_updateCursor {a : Alert} (u : Cursor) (other : s ≠ .cursor a.id) :
    st.Leaves s (st.updateCursor a u) := by
  refine (leaves_begins _).bind fun _ => Turns.retry ?_ _ _ _
  refine (leaves_watch _).bind fun _ => (leaves_of_readsOnly (.checkExists st _)).bind fun _ =>
    (leaves_read _).bind fun entries => (leaves_ofExcept _).bind fun stored =>
      Leaves.bind ?_ fun _ => leaves_ofExcept (.ok _)
  by_cases empty : (stored.changes u).isEmpty
  · rw [if_pos empty]
    exact leaves_commit [] rfl List.not_mem_nil
  · rw [if_neg empty]
    exact leaves_commit [.cursor a.id] rfl (by simpa using other)

/-- What is removed is not there. -/
theorem turns_delete {id : Option Int}
    (hs : s ∈ [Slot.alert id, .links id, .cursor id, .history id]) :
    st.Turns s (st.delete id) fun _ _ y => y = none := by
  refine (leaves_begins _).bind fun _ => Turns.map (Turns.guarded ?_ _)
  refine turns_transact fun db counts db' write => ?_
  obtain ⟨_, db₁, _, -, write⟩ := writeAll_cons_ok write
  obtain ⟨_, db₂, _, hdelete, write⟩ := writeAll_cons_ok write
  cases write
  exact (view_delete _ hdelete s).trans (if_pos hs)

theorem leaves_delete {id : Option Int} (h : ¬(AlertRequest.delete id).Touches s) :
    st.Leaves s (st.delete id) :=
  (leaves_begins _).bind fun _ => Turns.map (Turns.guarded (leaves_transact _ rfl h) _)

theorem turns_deleteChannel (st : AlertStore) (id : Option Int) :
    st.Turns (.channel id) (st.deleteChannel id) fun _ _ y => y = none := by
  refine (leaves_begins _).bind fun _ => Turns.map (Turns.guarded ?_ _)
  refine turns_transact fun db counts db' write => ?_
  obtain ⟨_, db₁, _, -, write⟩ := writeAll_cons_ok write
  obtain ⟨_, db₂, _, hdelete, write⟩ := writeAll_cons_ok write
  cases write
  exact (view_delete [.channel id] hdelete _).trans (if_pos List.mem_cons_self)

theorem leaves_deleteChannel {id : Option Int} (h : ¬(AlertRequest.deleteChannel id).Touches s) :
    st.Leaves s (st.deleteChannel id) :=
  (leaves_begins _).bind fun _ => Turns.map (Turns.guarded (leaves_transact _ rfl h) _)

/-- The document of the links is written, whatever was there. -/
theorem turns_setChannels (st : AlertStore) (id : Option Int) (channelIds : List Int) :
    st.Turns (.links id) (st.setChannels id channelIds)
      fun _ _ y => y = some (.text (linksDocument channelIds.eraseDups)) := by
  refine (leaves_begins _).bind fun _ => Turns.map (f := fun _ => ()) (Turns.guarded ?_ _)
  refine turns_write fun db n db' write => ?_
  rw [view_set (s := .links id) write, Function.update_self]
  rfl

theorem leaves_setChannels {id : Option Int} (channelIds : List Int) (other : s ≠ .links id) :
    st.Leaves s (st.setChannels id channelIds) := by
  refine (leaves_begins _).bind fun _ => Turns.map (f := fun _ => ()) (Turns.guarded ?_ _)
  exact leaves_write (.links id) rfl other

section CreateHistory

variable {a : Alert} {type data notifications : Json} {time : Moment}

/-- A trigger is recorded by its last command alone, the counter aside. -/
theorem turns_createHistory_of_commit {R : History → Option Stored → Option Stored → Prop}
    (counter : s ≠ .historyCounter)
    (push : ∀ row, st.Turns s (Client.commit [.push (st.slotKey (.history a.id)) row.encode])
      fun _ => R row) :
    st.Turns s (st.createHistory a type data notifications time) R := by
  have counted : st.Leaves s (st.nextId "history") :=
    leaves_write .historyCounter rfl counter
  refine (leaves_begins _).bind fun _ => Turns.retry ?_ _ _ _
  exact (leaves_watch _).bind fun _ => (leaves_of_readsOnly (.checkExists st _)).bind fun _ =>
    counted.bind fun i => (leaves_ofExcept _).bind fun type => Turns.map (push _)

/-- A trigger is recorded after the ones that are there. -/
theorem turns_createHistory :
    st.Turns (.history a.id) (st.createHistory a type data notifications time) fun row x y =>
      ∀ rows, x = textList rows → y = textList (rows ++ [row.encode]) := by
  refine turns_createHistory_of_commit (by simp) fun row => ?_
  refine turns_commit fun db counts db' write rows hrows => ?_
  obtain ⟨_, db₁, _, hpush, write⟩ := writeAll_cons_ok write
  cases write
  obtain ⟨items, hitems, hview⟩ := view_push hpush
  obtain rfl := Except.ok.inj (hitems.symm.trans (Database.items_eq hrows))
  rw [hview, Function.update_self, textList, if_neg (by simp)]

theorem leaves_createHistory
    (h : ¬(AlertRequest.createHistory a type data notifications time).Touches s) :
    st.Leaves s (st.createHistory a type data notifications time) := by
  obtain ⟨counter, other⟩ := not_or.mp (List.mem_cons.not.mp h)
  exact turns_createHistory_of_commit counter fun row =>
    leaves_commit [.history a.id] rfl other

end CreateHistory

section SaveChannel

variable {c : Channel}

/-- A channel is saved by its last transaction alone, the counter aside. -/
theorem turns_saveChannel_of_transact {R : Channel → Option Stored → Option Stored → Prop}
    (counter : s ≠ .channelCounter)
    (store : ∀ stored document, st.Turns s (Client.transact
      [.set (st.slotKey (.channel stored.id)) document,
        .insert (st.slotKey .channels) (idText stored.id)]) fun _ => R stored) :
    st.Turns s (st.saveChannel c) R := by
  have stores (c : Channel) : st.Turns s (do
      let document ← .ofExcept c.encode
      let _ ← guarded ("save channel " ++ idText c.id)
        (Client.transact [.set (st.channelKey (idText c.id)) document,
          .insert st.channelsKey (idText c.id)])
      pure c) R :=
    (leaves_ofExcept _).bind fun document =>
      Turns.map (f := fun _ => c) ((store c document).guarded _)
  refine (leaves_begins _).bind fun _ => ?_
  cases c.id with
  | some i => exact stores c
  | none =>
    have counted : st.Leaves s (st.nextId "channel") :=
      leaves_write .channelCounter rfl counter
    exact Leaves.bind (counted.guarded _) fun i => stores { c with id := some i }

/-- The channel that is answered is there, and others are as before. -/
theorem turns_saveChannel (id : Option Int) :
    st.Turns (.channel id) (st.saveChannel c) fun stored x y =>
      if stored.id = id then y.isSome = true else y = x := by
  refine turns_saveChannel_of_transact (by simp) fun stored document => ?_
  refine turns_transact fun db counts db' write => ?_
  split
  · next own =>
    subst own
    obtain ⟨_, db₁, _, hset, write⟩ := writeAll_cons_ok write
    have same : st.view db' (.channel stored.id) = st.view db₁ (.channel stored.id) :=
      view_of_slots write [.channels] rfl (by simp)
    rw [same, view_set hset, Function.update_self]
    rfl
  · next other =>
    exact view_of_slots write [.channel stored.id, .channels] rfl (by simpa using Ne.symm other)

theorem leaves_saveChannel (h : ¬(AlertRequest.saveChannel c).Touches s) :
    st.Leaves s (st.saveChannel c) := by
  simp only [AlertRequest.Touches, not_or, not_exists] at h
  obtain ⟨counter, channels, own⟩ := h
  exact turns_saveChannel_of_transact counter fun stored document =>
    leaves_transact [.channel stored.id, .channels] rfl (by simp [own, channels])

end SaveChannel

/-- **Operations leave alone** the parts of the store that they do not write to. -/
theorem leaves_serve {r : AlertRequest} (h : ¬r.Touches s) : st.Leaves s (st.serve r) := by
  cases r with
  | listEnabled => exact leaves_of_readsOnly (.listEnabled st)
  | listAlerts owner => exact leaves_of_readsOnly (.listAlerts st owner)
  | get id => exact leaves_of_readsOnly (.get st id)
  | listHistory id limit => exact leaves_of_readsOnly (.listHistory st id limit)
  | getChannel id => exact leaves_of_readsOnly (.readChannel st _)
  | listChannels owner => exact leaves_of_readsOnly (.listChannels st owner)
  | save => exact leaves_save h
  | delete => exact leaves_delete h
  | setChannels id channelIds => exact leaves_setChannels channelIds h
  | updateCursor a u => exact leaves_updateCursor u h
  | createHistory => exact leaves_createHistory h
  | saveChannel => exact leaves_saveChannel h
  | deleteChannel => exact leaves_deleteChannel h

/-- **What is in a slot follows the calls.**  Nothing else is planned for the server, whatever it
was asked. -/
theorem slot_follows {P : List (Call Alerts) → Option Stored → Prop} {past : List (Call Alerts)}
    {server : Server} (dialogue : Dialogue (I := Alerts) st.answer .empty past server)
    (first : P [] none)
    (answered : ∀ past r, st.Turns s (st.serve r) fun a x y =>
      P past x → P (past ++ [⟨r, .ok a⟩]) y)
    (failed : ∀ past r e x, P past x → P (past ++ [⟨r, .error e⟩]) x) :
    ∃ db, server = ⟨db, []⟩ ∧ P past (st.view db s) := by
  induction dialogue with
  | start => exact ⟨[], rfl, first⟩
  | @next past _ _ r ih =>
    obtain ⟨db, rfl, holds⟩ := ih
    obtain ⟨result, db', ends, turned⟩ := answered past r db
    have hanswer : st.answer r ⟨db, []⟩ = (result, ⟨db', []⟩) := ends
    rw [hanswer]
    refine ⟨db', rfl, ?_⟩
    cases result with
    | ok a => exact turned holds
    | error e =>
      have same : st.view db' s = st.view db s := turned
      exact same ▸ failed past r e _ holds

end AlertStore

end KeyValue

end LogAlert
