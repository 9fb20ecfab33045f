import LogAlert.Proofs.Interference
import LogAlert.Proofs.TidyStore

/-!
# The operations of an alert store among other clients

Each operation of an alert store, in the middle of any others, keeps the data tidy.  What it
applies moves no cursor back unless it removes it, and gives no id twice.  The two writes of an
evaluation apply a single move and a single trigger, or fail and apply neither.  That is the
contract of the operations.  Those that read, and those that administer alerts and channels, fulfil
it by what they write to: a reading writes nothing, and the others leave alone what the contract is
about, except for the removal of cursors.

## Main definitions

* `Applied.Resets`, `Applied.Ticks`, `Applied.Records`, `Applied.Moves` : what was applied.
* `Lawful` : what holds of everything that an operation applies.
* `Recorded` : what recording a trigger has applied.
* `storeContract` : the contract of the operations.

## Main results

* `ReadsOnly.get`, `ReadsOnly.listAlerts`, … : the operations that read.
* `Lawful.of_slots` : commands are lawful by the parts of the store that they write to.
* `safe_save`, `safe_delete`, … : the operations that administer alerts and channels.
-/

namespace LogAlert.KeyValue

open AlertStore

variable {st : AlertStore} {db db' : Database} {request : AlertRequest} {id : Option Int}

/-! ### What is applied -/

namespace Applied

/-- The cursor of an alert is removed, if only to be written anew. -/
def Resets (st : AlertStore) (id : Option Int) (e : Applied) : Prop :=
  ∃ keys, .delete keys ∈ e.commands ∧ st.slotKey (.cursor id) ∈ keys

/-- An id is given to a trigger, and nothing else changes. -/
structure Ticks (st : AlertStore) (n : Int) (e : Applied) : Prop where
  commands : e.commands = [.increment (st.slotKey .historyCounter)]
  before : st.lastRow e.before = n - 1
  after : st.lastRow e.after = n
  others : ∀ s, s ≠ .historyCounter → st.view e.after s = st.view e.before s

/-- A trigger of an alert that is there is written at the end of its triggers, and nothing else
changes. -/
structure Records (st : AlertStore) (id : Option Int) (row : History) (e : Applied) : Prop where
  commands : e.commands = [.push (st.slotKey (.history id)) row.encode]
  there : (st.view e.before (.alert id)).isSome
  rows : ∃ rows, e.before.items (st.slotKey (.history id)) = .ok rows ∧
    st.view e.after = Function.update (st.view e.before) (.history id)
      (some (.list (rows ++ [row.encode])))

/-- The cursor of an alert that is there is moved from exactly what was stored: the changes are
those to the stored cursor, they are merged into the stored entries, and nothing else changes.  The
answer has the cursor after the update, and the stored one has then seen what the update has. -/
structure Moves (st : AlertStore) (a : Alert) (u : Cursor) (a' : Alert) (e : Applied) : Prop where
  there : (st.view e.before (.alert a.id)).isSome
  merged : ∃ entries stored merged,
    e.before.entries (st.slotKey (.cursor a.id)) = .ok entries ∧
      Cursor.decode entries = .ok stored ∧ a' = { a with cursor := stored.advance u } ∧
      e.commands = (if (stored.changes u).isEmpty then []
        else [.putEntries (st.slotKey (.cursor a.id)) (stored.changes u).encode]) ∧
      e.after.entries (st.slotKey (.cursor a.id)) = .ok merged ∧
      ∀ key, merged.get? key = ((stored.changes u).encode.get? key).or (entries.get? key)
  others : ∀ s, s ≠ .cursor a.id → st.view e.after s = st.view e.before s
  seen : st.seen e.before a.id ≤ st.seen e.after a.id
  reached : u.lastSeen ≤ st.seen e.after a.id

end Applied

/-- The operations that may remove the cursor of an alert: its removal, a save that resets it, and
a save of a new alert, which may be given any id. -/
def MayReset (id : Option Int) : AlertRequest → Prop
  | .delete other => other = id
  | .save a resetBaseline => a.id = none ∨ a.id = id ∧ resetBaseline = true
  | _ => False

/-- Whether an operation records a trigger. -/
def IsRecording : AlertRequest → Prop
  | .createHistory .. => True
  | _ => False

/-- What an operation applies moves no cursor back unless it may remove it, and neither gives an id
to a trigger nor records one unless it is the operation for that. -/
structure Lawful (st : AlertStore) (request : AlertRequest) (e : Applied) : Prop where
  seen : ∀ id, ¬e.Resets st id → st.seen e.before id ≤ st.seen e.after id
  resets : ∀ id, e.Resets st id → MayReset id request
  counts : st.lastRow e.after = st.lastRow e.before ∨ ∃ n, e.Ticks st n
  records : ∀ id item, .push (st.slotKey (.history id)) item ∈ e.commands → IsRecording request

/-- What recording a trigger of an alert has applied: ids that were given and lost, and then
perhaps an id and the trigger with it. -/
inductive Recorded (st : AlertStore) (id : Option Int) : Option History → List Applied → Prop where
  | ticks {es : List Applied} (ticks : ∀ e ∈ es, ∃ n, e.Ticks st n) : Recorded st id none es
  | row {es : List Applied} {last push : Applied} {n : Int} {row : History}
      (ticks : ∀ e ∈ es, ∃ n, e.Ticks st n) (tick : last.Ticks st n) (hid : row.id = some n)
      (records : push.Records st id row) : Recorded st id (some row) (es ++ [last, push])

/-! ### The contract -/

/-- What an operation ends in, by what it has applied. -/
def EndsAs (st : AlertStore) : (request : AlertRequest) → List Applied →
    Except Failure request.Answer → Prop
  | .updateCursor a u, es, .ok a' => ∃ e, es = [e] ∧ e.Moves st a u a'
  | .updateCursor _ _, es, .error _ => es = []
  | .createHistory a type data notifications time, es, .ok row =>
    Recorded st a.id (some row) es ∧ ∃ t, AlertType.ofJson type = .ok t ∧
      row = { id := row.id, alertId := a.id, type := t, data, notifications, triggeredAt := time }
  | .createHistory a _ _ _ _, es, .error _ => Recorded st a.id none es
  | _, _, _ => True

/-- The data stay tidy, everything applied is lawful, and the writes of an evaluation apply a
single move or trigger or fail. -/
def storeContract (st : AlertStore) : Contract where
  Inv := st.Tidy
  Along request es := (∀ e ∈ es, Lawful st request e) ∧
    ∀ a type data notifications time, request = .createHistory a type data notifications time →
      ∃ row, Recorded st a.id row es
  Ends := EndsAs st

/-! ### Readings -/

namespace ReadsOnly

variable {α β : Type}

theorem ofRead (r : Read) : ReadsOnly (Client.read r) :=
  .read fun _ => .done _

theorem ofBegins (operation : String) : ReadsOnly (Client.begins operation) :=
  .begins fun _ => .done _

theorem ofExcept_bind {result : Except Failure α} {next : α → Script Client β}
    (h : ∀ a, ReadsOnly (next a)) : ReadsOnly (.ofExcept result >>= next) :=
  bind (.done result) h

theorem readChannel (st : AlertStore) (id : String) : ReadsOnly (st.readChannel id) := by
  refine bind (ofBegins _) fun _ => bind (guarded (ofRead _) _) fun raw => ?_
  cases raw with
  | none => exact .done _
  | some raw => exact bind (.done _) fun _ => .done _

theorem readLinks (st : AlertStore) (id : String) : ReadsOnly (st.readLinks id) := by
  refine bind (ofRead _) fun raw => ?_
  cases raw with
  | none => exact .done _
  | some raw =>
    dsimp only
    split
    · exact .done _
    · exact ofExcept_bind fun ids => bind (mapList (readChannel st) ids) fun _ => .done _

theorem readAlert (st : AlertStore) (id : String) : ReadsOnly (st.readAlert id) := by
  refine bind (ofRead _) fun raw => ?_
  cases raw with
  | none => exact .done _
  | some raw =>
    refine ofExcept_bind fun a => bind (ofRead _) fun entries => ofExcept_bind fun cursor => ?_
    exact bind (readLinks st id) fun _ => .done _

theorem get (st : AlertStore) (id : Option Int) : ReadsOnly (st.get id) :=
  bind (ofBegins _) fun _ => guarded (readAlert st _) _

theorem listAlerts (st : AlertStore) (owner : Json) : ReadsOnly (st.listAlerts owner) := by
  refine bind (ofBegins _) fun _ => bind (guarded ?_ _) fun _ => .done _
  exact bind (ofRead _) fun members => ofExcept_bind fun ids => mapList (readAlert st) _

theorem listEnabled (st : AlertStore) : ReadsOnly st.listEnabled :=
  bind (ofBegins _) fun _ => bind (listAlerts st _) fun _ => .done _

theorem listChannels (st : AlertStore) (owner : Json) : ReadsOnly (st.listChannels owner) := by
  refine bind (ofBegins _) fun _ => bind (guarded (ofRead _) _) fun members => ?_
  refine ofExcept_bind fun ids => ?_
  exact bind (bind (mapList (readChannel st) _) fun _ => .done _) fun _ => .done _

theorem listHistory (st : AlertStore) (id : Option Int) (limit : Int) :
    ReadsOnly (st.listHistory id limit) :=
  bind (ofBegins _) fun _ => bind (guarded (ofRead _) _) fun _ => .done _

end ReadsOnly

/-! ### Lawful commands -/

/-- A slot that a command names is among the slots that the commands name. -/
theorem slot_mem {ws : List Write} {slots : List Slot} (keys : keysOf ws = slots.map st.slotKey)
    {w : Write} (hw : w ∈ ws) {s : Slot} (named : st.slotKey s ∈ w.keys) : s ∈ slots := by
  rw [← slotKey_mem, ← keys]
  exact List.mem_flatMap.mpr ⟨w, hw, named⟩

/-- What is applied is lawful if it does not count or record triggers, and removes the cursors
that it writes to, as its operation may. -/
theorem Lawful.of_slots {ws : List Write} {counts : List Int}
    (write : db.writeAll ws = .ok (counts, db')) (slots : List Slot)
    (keys : keysOf ws = slots.map st.slotKey) (counter : .historyCounter ∉ slots)
    (histories : ∀ id item, .push (st.slotKey (.history id)) item ∉ ws)
    (cursors : ∀ id, .cursor id ∈ slots →
      Applied.Resets st id ⟨ws, db, db'⟩ ∧ MayReset id request) :
    Lawful st request ⟨ws, db, db'⟩ where
  seen id kept := by
    have same : st.view db' (.cursor id) = st.view db (.cursor id) := by
      refine view_of_writeAll write fun hkey => kept (cursors id ?_).1
      rwa [keys, slotKey_mem] at hkey
    rw [AlertStore.seen, AlertStore.seen, same]
    exact seen_le_refl _
  resets := by
    rintro id ⟨removed, hdelete, hkey⟩
    exact (cursors id (slot_mem keys hdelete hkey)).2
  counts := by
    refine .inl ?_
    rw [lastRow, lastRow, view_of_writeAll write]
    rwa [keys, slotKey_mem]
  records id item push := absurd push (histories id item)

/-- Other parts of the store are written. -/
theorem Lawful.aside {ws : List Write} {counts : List Int}
    (write : db.writeAll ws = .ok (counts, db')) (slots : List Slot)
    (keys : keysOf ws = slots.map st.slotKey) (aside : ∀ s ∈ slots, s.Aside) :
    Lawful st request ⟨ws, db, db'⟩ := by
  refine .of_slots write slots keys (aside _) (fun id item push => ?_) fun id hid => ?_
  · exact aside _ (slot_mem keys push (List.mem_singleton_self _))
  · exact absurd (aside _ hid) not_false

/-! ### Parts of operations -/

section Parts

variable {α : Type} {g : Stance}

/-- Everything that was applied is lawful. -/
abbrev AllLawful (st : AlertStore) (request : AlertRequest) (es : List Applied) : Prop :=
  ∀ e ∈ es, Lawful st request e

theorem along_iff (ordinary : ¬IsRecording request) {es : List Applied} :
    (storeContract st).Along request es ↔ AllLawful st request es := by
  refine and_iff_left ?_
  rintro a type data notifications time rfl
  exact absurd trivial ordinary

theorem allLawful_append {es : List Applied} (h : AllLawful st request es) {e : Applied}
    (lawful : Lawful st request e) : AllLawful st request (es ++ [e]) := by
  intro e' he'
  rcases List.mem_append.mp he' with he' | he'
  · exact h e' he'
  · exact List.mem_singleton.mp he' ▸ lawful

/-- A transaction that keeps the data tidy and is lawful. -/
theorem safe_transact (ordinary : ¬IsRecording request) {ws : List Write} {action : String}
    (lawful : AllLawful st request g.applied)
    (applies : ∀ db counts db', st.Tidy db → db.writeAll ws = .ok (counts, db') →
      st.Tidy db' ∧ Lawful st request ⟨ws, db, db'⟩) :
    Safe st.Tidy ((storeContract st).Along request)
      (guarded action (Client.transact ws)) (fun g _ => AllLawful st request g.applied) g := by
  refine Safe.guarded (Safe.transact ((along_iff ordinary).mpr lawful) (fun _ _ => lawful) ?_)
  intro db lost counts db' meets write
  obtain ⟨tidy, law⟩ := applies db counts db' meets.inv write
  have all := allLawful_append lawful law
  exact ⟨tidy, (along_iff ordinary).mpr all, all⟩

/-- A command that writes another part of the store. -/
theorem safe_write (ordinary : ¬IsRecording request) {w : Write} {action : String}
    (lawful : AllLawful st request g.applied) (s : Slot) (keys : w.keys = [st.slotKey s])
    (aside : s.Aside) :
    Safe st.Tidy ((storeContract st).Along request)
      (guarded action (Client.write w)) (fun g _ => AllLawful st request g.applied) g := by
  refine Safe.guarded (Safe.write ((along_iff ordinary).mpr lawful) (fun _ _ => lawful) ?_)
  intro db lost n db' meets write
  have write := Database.writeAll_one write
  have keys : keysOf [w] = [s].map st.slotKey := (List.flatMap_singleton _ _).trans keys
  have aside : ∀ t ∈ [s], t.Aside := by simpa
  have all := allLawful_append lawful (.aside write [s] keys aside)
  exact ⟨meets.inv.aside write [s] keys aside, (along_iff ordinary).mpr all, all⟩

/-- What follows a lawful part. -/
theorem safe_then {β : Type} {script : Script Client β}
    {next : β → Script Client α}
    (first : Safe st.Tidy ((storeContract st).Along request) script
      (fun g _ => AllLawful st request g.applied) g)
    (second : ∀ b g, AllLawful st request g.applied →
      Safe st.Tidy ((storeContract st).Along request) (next b) (fun _ _ => True) g) :
    Safe st.Tidy ((storeContract st).Along request) (script >>= next) (fun _ _ => True) g := by
  refine safe_bind.mpr (first.imp fun g result lawful => ?_)
  cases result with
  | ok b => exact second b g lawful
  | error e => trivial

end Parts

/-! ### Administration -/

/-- An operation that records no trigger may begin. -/
theorem along_nil (st : AlertStore) (ordinary : ¬IsRecording request) :
    (storeContract st).Along request [] :=
  (along_iff ordinary).mpr (List.forall_mem_nil _)

theorem safe_delete (st : AlertStore) (id : Option Int) :
    Safe st.Tidy ((storeContract st).Along (.delete id)) (st.delete id) (fun _ _ => True)
      .start := by
  have ordinary : ¬IsRecording (.delete id) := not_false
  refine Safe.begins_bind (along_nil st ordinary) fun _ lost _ => ?_
  refine safe_then (safe_transact ordinary (List.forall_mem_nil _)
    fun db counts db' tidy write => ?_) fun _ _ _ => trivial
  let own : List Slot := [.alert id, .links id, .cursor id, .history id]
  refine ⟨tidy.remove write, .of_slots write (.alerts :: own) rfl (by simp [own]) (by simp)
    fun j hj => ?_⟩
  obtain rfl : j = id := by simpa [own] using hj
  refine ⟨⟨own.map st.slotKey, List.mem_cons_of_mem _ (List.mem_singleton_self _), ?_⟩, rfl⟩
  exact List.mem_map_of_mem (by simp [own])

/-- The settings of an alert are written, and its cursor only if the baseline is reset. -/
theorem slots_saveCommands (st : AlertStore) (a : Alert) (document : String)
    (resetBaseline : Bool) :
    ∃ slots : List Slot, keysOf (st.saveCommands a document resetBaseline) = slots.map st.slotKey ∧
      ∀ s ∈ slots, s = .alert a.id ∨ s = .alerts ∨ resetBaseline = true ∧ s = .cursor a.id := by
  rw [saveCommands]
  cases resetBaseline with
  | false => exact ⟨[.alert a.id, .alerts], rfl, by simp⟩
  | true =>
    by_cases empty : a.cursor.encode.isEmpty
    · exact ⟨[.alert a.id, .alerts, .cursor a.id], by simp only [empty, if_true]; rfl, by simp⟩
    · exact ⟨[.alert a.id, .alerts, .cursor a.id, .cursor a.id],
        by simp only [empty, if_true]; rfl, by simp⟩

/-- An alert is stored by an operation that may reset its baseline if it does. -/
theorem safe_store (ordinary : ¬IsRecording request) {g : Stance}
    (lawful : AllLawful st request g.applied) {a : Alert} {i : Int} (hid : a.id = some i)
    {resetBaseline : Bool} (may : resetBaseline = true → MayReset a.id request)
    (document : String) (action : String) :
    Safe st.Tidy ((storeContract st).Along request)
      (guarded action (Client.transact (st.saveCommands a document resetBaseline)))
      (fun g _ => AllLawful st request g.applied) g := by
  refine safe_transact ordinary lawful fun db counts db' tidy write => ?_
  obtain ⟨slots, keys, hslots⟩ := slots_saveCommands st a document resetBaseline
  refine ⟨tidy.save hid write, .of_slots write slots keys (fun h => ?_) (fun id item h => ?_)
    fun id h => ?_⟩
  · simpa using hslots _ h
  · simpa using hslots _ (slot_mem keys h (List.mem_singleton_self _))
  · obtain ⟨reset, rfl⟩ : resetBaseline = true ∧ id = a.id := by simpa using hslots _ h
    refine ⟨⟨[st.cursorKey (idText a.id)], ?_, List.mem_singleton_self _⟩, may reset⟩
    rw [saveCommands, reset]
    exact List.mem_append_right _ List.mem_cons_self

theorem safe_save (st : AlertStore) (a : Alert) (resetBaseline : Bool) :
    Safe st.Tidy ((storeContract st).Along (.save a resetBaseline)) (st.save a resetBaseline)
      (fun _ _ => True) .start := by
  have ordinary : ¬IsRecording (.save a resetBaseline) := not_false
  have stores {g : Stance} (lawful : AllLawful st (.save a resetBaseline) g.applied)
      {a' : Alert} {i : Int} (hid : a'.id = some i) {reset : Bool}
      (may : reset = true → MayReset a'.id (.save a resetBaseline)) :
      Safe st.Tidy ((storeContract st).Along (.save a resetBaseline)) (do
        let document ← .ofExcept a'.encode
        let _ ← guarded ("save alert " ++ idText a'.id)
          (Client.transact (st.saveCommands a' document reset))
        st.get a'.id) (fun _ _ => True) g := by
    refine Safe.ofExcept_bind ?_
    cases a'.encode with
    | error e => trivial
    | ok document =>
      refine safe_then (safe_store ordinary lawful hid may document _) fun _ g lawful => ?_
      exact (ReadsOnly.get st _).safe ((along_iff ordinary).mpr lawful) fun _ _ => trivial
  refine Safe.begins_bind (along_nil st ordinary) fun _ lost _ => ?_
  cases hid : a.id with
  | some i => exact stores (List.forall_mem_nil _) hid fun reset => .inr ⟨rfl, reset⟩
  | none =>
    refine safe_then (safe_write ordinary (List.forall_mem_nil _) .alertCounter rfl trivial)
      fun i g lawful => ?_
    exact stores lawful rfl fun _ => .inl hid

theorem safe_setChannels (st : AlertStore) (id : Option Int) (channelIds : List Int) :
    Safe st.Tidy ((storeContract st).Along (.setChannels id channelIds))
      (st.setChannels id channelIds) (fun _ _ => True) .start := by
  have ordinary : ¬IsRecording (.setChannels id channelIds) := not_false
  refine Safe.begins_bind (along_nil st ordinary) fun _ lost _ => ?_
  exact safe_then (safe_write ordinary (List.forall_mem_nil _) (.links id) rfl trivial)
    fun _ _ _ => trivial

theorem safe_saveChannel (st : AlertStore) (c : Channel) :
    Safe st.Tidy ((storeContract st).Along (.saveChannel c)) (st.saveChannel c)
      (fun _ _ => True) .start := by
  have ordinary : ¬IsRecording (.saveChannel c) := not_false
  have stores {g : Stance} (lawful : AllLawful st (.saveChannel c) g.applied) (c' : Channel) :
      Safe st.Tidy ((storeContract st).Along (.saveChannel c)) (do
        let document ← .ofExcept c'.encode
        let _ ← guarded ("save channel " ++ idText c'.id)
          (Client.transact [.set (st.channelKey (idText c'.id)) document,
            .insert st.channelsKey (idText c'.id)])
        pure c') (fun _ _ => True) g := by
    refine Safe.ofExcept_bind ?_
    cases c'.encode with
    | error e => trivial
    | ok document =>
      refine safe_then (safe_transact ordinary lawful fun db counts db' tidy write => ?_)
        fun _ _ _ => trivial
      have aside : ∀ s ∈ [Slot.channel c'.id, .channels], s.Aside := by simp [Slot.Aside]
      exact ⟨tidy.aside write _ rfl aside, .aside write _ rfl aside⟩
  refine Safe.begins_bind (along_nil st ordinary) fun _ lost _ => ?_
  cases hid : c.id with
  | some i => exact stores (List.forall_mem_nil _) c
  | none =>
    exact safe_then (safe_write ordinary (List.forall_mem_nil _) .channelCounter rfl trivial)
      fun i g lawful => stores lawful { c with id := some i }

theorem safe_deleteChannel (st : AlertStore) (id : Option Int) :
    Safe st.Tidy ((storeContract st).Along (.deleteChannel id)) (st.deleteChannel id)
      (fun _ _ => True) .start := by
  have ordinary : ¬IsRecording (.deleteChannel id) := not_false
  refine Safe.begins_bind (along_nil st ordinary) fun _ lost _ => ?_
  refine safe_then (safe_transact ordinary (List.forall_mem_nil _)
    fun db counts db' tidy write => ?_) fun _ _ _ => trivial
  have aside : ∀ s ∈ [Slot.channels, .channel id], s.Aside := by simp [Slot.Aside]
  exact ⟨tidy.aside write _ rfl aside, .aside write _ rfl aside⟩

end LogAlert.KeyValue
