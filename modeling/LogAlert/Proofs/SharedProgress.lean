import LogAlert.Proofs.SharedOperations

/-!
# Cursors and triggers among other clients

A cursor is moved, and a trigger recorded, by a commit under a watch.  Such a commit meets what
was read under the watch, since whoever wrote there in between would have made it fail; so it
applies what was decided upon the reading.  With that, all operations of an alert store fulfil its
contract.

## Main results

* `AlertStore.Tidy.moves` : changes that are written to the cursor they were computed from.
* `safe_updateCursor`, `safe_createHistory` : the writes of an evaluation.
* `fulfilled_storeContract` : all operations fulfil the contract.
-/

namespace LogAlert

/-- A move of a cursor goes neither behind the cursor nor behind the update. -/
theorem Cursor.lastSeen_le_advance (stored u : Cursor) :
    stored.lastSeen ≤ (stored.advance u).lastSeen ∧ u.lastSeen ≤ (stored.advance u).lastSeen := by
  rw [advance, write, changes]
  dsimp only
  cases hu : u.lastSeen with
  | none => simp [KeyValue.AlertStore.seen_le_refl]
  | some n =>
    cases stored.lastSeen with
    | none => simp
    | some m =>
      by_cases h : m ≤ n
      · simp [Option.filter_some, h]
      · simp [Option.filter_some, h]
        omega

theorem Cursor.encode_of_isEmpty {c : Cursor} (h : c.isEmpty) : c.encode = [] := by
  simp only [isEmpty, Bool.and_eq_true, Option.isNone_iff_eq_none] at h
  simp [encode, h]

namespace KeyValue

open AlertStore

variable {st : AlertStore} {db db' : Database} {request : AlertRequest}

/-! ### Moving a cursor -/

namespace AlertStore

theorem seen_of_entries {id : Option Int} {entries : Table String String}
    (h : db.entries (st.slotKey (.cursor id)) = .ok entries) :
    st.seen db id = (entries.get? "last_seen_log_id").bind fun text =>
      Number.readInt? text.toList := by
  rw [seen, view]
  rcases holdsEntries_of_entries h with hsome | ⟨hnone, rfl⟩
  · rw [hsome]
    rfl
  · rw [hnone]
    rfl

theorem entries_congr {s : Slot} (h : st.view db s = st.view db' s) :
    db.entries (st.slotKey s) = db'.entries (st.slotKey s) := by
  rw [view, view] at h
  rw [Database.entries, Database.entries, h]

/-- The record seen last is read as it is stored. -/
theorem Tidy.seen_eq (h : st.Tidy db) {id : Option Int} {entries : Table String String}
    (hentries : db.entries (st.slotKey (.cursor id)) = .ok entries) {stored : Cursor}
    (hdecode : Cursor.decode entries = .ok stored) : st.seen db id = stored.lastSeen := by
  obtain ⟨lastSeen, hpart, hdecode⟩ := exists_of_bind_ok hdecode
  obtain ⟨_, -, hdecode⟩ := exists_of_bind_ok hdecode
  obtain ⟨_, -, hdecode⟩ := exists_of_bind_ok hdecode
  cases hdecode
  rw [seen_of_entries hentries]
  change _ = lastSeen
  rw [Cursor.part] at hpart
  split at hpart
  · next absent =>
    cases hpart
    rw [absent]
    rfl
  · next text there =>
    have hview : st.view db (.cursor id) = some (.hash entries) := by
      rcases holdsEntries_of_entries hentries with hsome | ⟨-, rfl⟩
      · exact hsome
      · cases there
    obtain ⟨n, rfl⟩ := h.integer id entries text hview there
    have hne : (String.ofList (Json.intText n) == "") = false := by
      obtain ⟨c, cs, hcons, -⟩ := Json.Reader.head_intText n
      simp [hcons]
    rw [hne, if_neg Bool.false_ne_true] at hpart
    cases hread : Cursor.readStoredInt (String.ofList (Json.intText n)) with
    | error e =>
      rw [hread] at hpart
      cases hpart
    | ok m =>
      rw [hread] at hpart
      cases hpart
      rw [there, Option.bind_some, readInt?_of_readStoredInt hread]

/-- **Changes that are written to the cursor they were computed from** move it. -/
theorem Tidy.moves (h : st.Tidy db) {a : Alert} {u stored : Cursor}
    {entries : Table String String} {counts : List Int}
    (there : (st.view db (.alert a.id)).isSome)
    (hentries : db.entries (st.slotKey (.cursor a.id)) = .ok entries)
    (hdecode : Cursor.decode entries = .ok stored)
    (write : db.writeAll (if (stored.changes u).isEmpty then []
      else [.putEntries (st.slotKey (.cursor a.id)) (stored.changes u).encode]) =
        .ok (counts, db')) :
    st.Tidy db' ∧ Applied.Moves st a u { a with cursor := stored.advance u }
      ⟨if (stored.changes u).isEmpty then []
        else [.putEntries (st.slotKey (.cursor a.id)) (stored.changes u).encode], db, db'⟩ := by
  obtain ⟨merged, hmerged, hget, others, tidy⟩ : ∃ merged,
      db'.entries (st.slotKey (.cursor a.id)) = .ok merged ∧
      (∀ key, merged.get? key = ((stored.changes u).encode.get? key).or (entries.get? key)) ∧
      (∀ s, s ≠ .cursor a.id → st.view db' s = st.view db s) ∧ st.Tidy db' := by
    by_cases empty : (stored.changes u).isEmpty
    · rw [if_pos empty] at write
      cases write
      refine ⟨entries, hentries, fun key => ?_, fun _ _ => rfl, h⟩
      rw [Cursor.encode_of_isEmpty empty]
      rfl
    · rw [if_neg empty] at write
      obtain ⟨_, db₁, _, hput, write⟩ := writeAll_cons_ok write
      cases write
      obtain ⟨old, merged, hold, hview, hget⟩ :=
        view_putEntries (Cursor.nodup_keys_encode _) hput
      obtain rfl := Except.ok.inj (hold.symm.trans hentries)
      refine ⟨merged, ?_, hget, fun s hs => ?_, h.putCursor there hput⟩
      · refine Database.entries_eq (.inl ?_)
        change st.view db' _ = _
        rw [hview, Function.update_self]
      · rw [hview, Function.update_of_ne hs]
  have before := h.seen_eq hentries hdecode
  have after : st.seen db' a.id = (stored.advance u).lastSeen := by
    change _ = (stored.changes u).lastSeen.or stored.lastSeen
    rw [seen_of_entries hmerged, hget, (Cursor.get?_encode _).1, ← before, seen_of_entries hentries]
    cases (stored.changes u).lastSeen <;> simp [readInt?_intText]
  obtain ⟨kept, reached⟩ := Cursor.lastSeen_le_advance stored u
  refine ⟨tidy, there, ⟨entries, stored, merged, hentries, hdecode, rfl, rfl, hmerged, hget⟩,
    others, ?_, ?_⟩
  · rw [before, after]
    exact kept
  · rw [after]
    exact reached

end AlertStore

/-- What follows the check that an alert exists. -/
theorem safe_checkExists {β : Type} {Inv : Database → Prop} {Along : List Applied → Prop}
    {g : Stance} {P : Stance → Except Failure β → Prop} {id : Option Int}
    {next : Unit → Script Client β} (along : Along g.applied)
    (fails : ∀ lost e, P { g with lost } (.error e))
    (exist : ∀ db lost, g.Meets Inv db lost → (st.view db (.alert id)).isSome →
      Safe Inv Along (next ()) P { g with lost }) :
    Safe Inv Along (st.checkExists id >>= next) P g := by
  refine safe_bind.mpr (Safe.read_bind along fun db lost meets => ?_)
  change Safe Inv Along (if db.has (st.slotKey (.alert id)) then pure () else _) _ _
  split
  · next there =>
    rw [Table.has_eq_isSome] at there
    exact exist db lost meets there
  · exact fails lost _

/-- As long as the watch is not lost, later data agree with earlier ones on what is watched. -/
theorem Stance.Meets.view_eq {Inv : Database → Prop} {g : Stance} {lost : Bool}
    (meets : g.Meets Inv db lost) (kept : lost = false) (agrees : g.Agrees db') {s : Slot}
    (watched : st.slotKey s ∈ g.watched) : st.view db' s = st.view db s :=
  (agrees _ watched).trans (meets.agrees kept _ watched).symm

/-- A move is lawful. -/
theorem Applied.Moves.lawful {a a' : Alert} {u : Cursor} {e : Applied}
    (h : e.Moves st a u a') : Lawful st request e := by
  obtain ⟨entries, stored, merged, -, -, -, commands, -⟩ := h.merged
  have puts {w : Write} (hw : w ∈ e.commands) : ∃ key entries, w = .putEntries key entries := by
    rw [commands] at hw
    split at hw
    · cases hw
    · exact ⟨_, _, List.mem_singleton.mp hw⟩
  refine ⟨fun id _ => ?_, ?_, .inl ?_, fun id item hpush => ?_⟩
  · by_cases hid : id = a.id
    · exact hid ▸ h.seen
    · rw [AlertStore.seen, AlertStore.seen, h.others _ (by simp [hid])]
      exact seen_le_refl _
  · rintro id ⟨keys, hdelete, -⟩
    obtain ⟨_, _, hw⟩ := puts hdelete
    cases hw
  · rw [lastRow, lastRow, h.others _ (by simp)]
  · obtain ⟨_, _, hw⟩ := puts hpush
    cases hw

/-- One try of moving a cursor applies the move, or fails and applies nothing. -/
theorem safe_tryUpdateCursor (st : AlertStore) (a : Alert) (u : Cursor) {g : Stance}
    (hg : g.applied = []) :
    Safe st.Tidy ((storeContract st).Along (.updateCursor a u)) (st.tryUpdateCursor a u)
      (Tried (· = []) fun g result => EndsAs st (.updateCursor a u) g.applied result) g := by
  obtain ⟨watched, snapshot, lost, applied⟩ := g
  obtain rfl : applied = [] := hg
  have ordinary : ¬IsRecording (.updateCursor a u) := not_false
  have along := along_nil st ordinary
  refine Safe.watch_bind along fun db₀ tidy₀ => ?_
  refine safe_checkExists along (fun lost e => rfl) fun db₁ lost₁ meets₁ there => ?_
  refine Safe.read_bind along fun db₂ lost₂ meets₂ => ?_
  change Onward _ _ _ _ _ (db₂.entries (st.slotKey (.cursor a.id)))
  cases hentries : db₂.entries (st.slotKey (.cursor a.id)) with
  | error e => exact rfl
  | ok entries =>
    refine Safe.ofExcept_bind ?_
    cases hdecode : Cursor.decode entries with
    | error e => exact rfl
    | ok stored =>
      refine safe_bind.mpr (Safe.commit along (fun e => rfl)
        fun db counts db' tidy kept agrees write => ?_)
      -- the watch was not lost, neither when the entries were read nor before
      have kept₁ : lost₁ = false := Bool.eq_false_iff.mpr fun h =>
        Bool.eq_false_iff.mp kept (meets₂.loses h)
      have hcursor : st.view db (.cursor a.id) = st.view db₂ (.cursor a.id) :=
        meets₂.view_eq kept agrees List.mem_cons_self
      have halert : st.view db (.alert a.id) = st.view db₁ (.alert a.id) :=
        meets₁.view_eq kept₁ agrees (List.mem_cons_of_mem _ (List.mem_singleton_self _))
      have hentries' := (entries_congr hcursor).trans hentries
      obtain ⟨tidy', moves⟩ := tidy.moves (halert ▸ there) hentries' hdecode write
      have lawful : AllLawful st (.updateCursor a u) ([] ++ [_]) :=
        allLawful_append (List.forall_mem_nil _) moves.lawful
      exact ⟨tidy', (along_iff ordinary).mpr lawful, _, rfl, moves⟩

theorem safe_updateCursor (st : AlertStore) (a : Alert) (u : Cursor) :
    Safe st.Tidy ((storeContract st).Along (.updateCursor a u)) (st.updateCursor a u)
      (fun g result => EndsAs st (.updateCursor a u) g.applied result) .start := by
  refine Safe.begins_bind (along_nil st not_false) fun _ lost _ => ?_
  exact Safe.retry (fun g hg => safe_tryUpdateCursor st a u hg) (fun g e hg => hg)
    st.attempts.toNat rfl

/-! ### Recording a trigger -/

theorem Applied.ticks_of_write {n : Int}
    (write : db.write (.increment (st.slotKey .historyCounter)) = .ok (n, db')) :
    Applied.Ticks st n ⟨[.increment (st.slotKey .historyCounter)], db, db'⟩ where
  commands := rfl
  before := (count_increment write).1
  after := (count_increment write).2
  others _ hs := view_of_writeAll (Database.writeAll_one write)
    fun hkey => hs (slotKey_inj.mp (List.mem_singleton.mp hkey))

theorem Applied.Ticks.lawful {n : Int} {e : Applied} (h : e.Ticks st n) :
    Lawful st request e := by
  refine ⟨fun id _ => ?_, ?_, .inr ⟨n, h⟩, fun id item hpush => ?_⟩
  · rw [AlertStore.seen, AlertStore.seen, h.others _ (by simp)]
    exact seen_le_refl _
  · rintro id ⟨keys, hdelete, -⟩
    rw [h.commands] at hdelete
    simp at hdelete
  · rw [h.commands] at hpush
    simp at hpush

theorem Applied.Records.lawful {id : Option Int} {row : History} {e : Applied}
    (h : e.Records st id row) (recording : IsRecording request) : Lawful st request e := by
  obtain ⟨rows, -, hview⟩ := h.rows
  refine ⟨fun id _ => ?_, ?_, .inl ?_, fun _ _ _ => recording⟩
  · rw [AlertStore.seen, AlertStore.seen, hview, Function.update_of_ne (by simp)]
    exact seen_le_refl _
  · rintro id ⟨keys, hdelete, -⟩
    rw [h.commands] at hdelete
    simp at hdelete
  · rw [lastRow, lastRow, hview, Function.update_of_ne (by simp)]

/-- All that recording a trigger applies is lawful. -/
theorem Recorded.along {a : Alert} {type data notifications : Json} {time : Moment}
    {row : Option History} {es : List Applied} (h : Recorded st a.id row es) :
    (storeContract st).Along (.createHistory a type data notifications time) es := by
  refine ⟨?_, ?_⟩
  · cases h with
    | ticks ticks =>
      intro e he
      obtain ⟨n, tick⟩ := ticks e he
      exact tick.lawful
    | row ticks tick hid records =>
      intro e he
      rcases List.mem_append.mp he with he | he
      · obtain ⟨n, tick⟩ := ticks e he
        exact tick.lawful
      · rcases List.mem_pair.mp he with rfl | rfl
        · exact tick.lawful
        · exact records.lawful trivial
  · rintro _ _ _ _ _ heq
    cases heq
    exact ⟨row, h⟩

theorem Recorded.tick {id : Option Int} {es : List Applied} (h : Recorded st id none es) {n : Int}
    {e : Applied} (tick : e.Ticks st n) : Recorded st id none (es ++ [e]) := by
  cases h with
  | ticks ticks =>
    refine .ticks fun e' he' => ?_
    rcases List.mem_append.mp he' with he' | he'
    · exact ticks e' he'
    · exact ⟨n, List.mem_singleton.mp he' ▸ tick⟩

theorem Recorded.push {id : Option Int} {es : List Applied} (h : Recorded st id none es) {n : Int}
    {e e' : Applied} {row : History} (tick : e.Ticks st n) (hid : row.id = some n)
    (records : e'.Records st id row) : Recorded st id (some row) (es ++ [e] ++ [e']) := by
  rw [List.append_assoc]
  cases h with
  | ticks ticks => exact .row ticks tick hid records

/-- One try of recording a trigger takes an id and applies the trigger, or fails and applies at
most that it took an id. -/
theorem safe_tryCreateHistory (st : AlertStore) (a : Alert) (type data notifications : Json)
    (time : Moment) {g : Stance} (hg : Recorded st a.id none g.applied) :
    Safe st.Tidy ((storeContract st).Along (.createHistory a type data notifications time))
      (st.tryCreateHistory a type data notifications time)
      (Tried (Recorded st a.id none) fun g result =>
        EndsAs st (.createHistory a type data notifications time) g.applied result) g := by
  refine Safe.watch_bind hg.along fun db₀ tidy₀ => ?_
  refine safe_checkExists hg.along (fun lost e => hg) fun db₁ lost₁ meets₁ there => ?_
  refine safe_bind.mpr (Safe.write hg.along (fun e lost => hg)
    fun db₂ lost₂ n db₂' meets₂ hincrement => ?_)
  have tick := Applied.ticks_of_write hincrement
  have hticks := hg.tick tick
  have tidy₂ : st.Tidy db₂' := by
    refine meets₂.inv.congr fun s hs => tick.others s ?_
    rcases hs with rfl | ⟨id, rfl | rfl | rfl⟩ <;> simp
  refine ⟨tidy₂, hticks.along, ?_⟩
  refine Safe.ofExcept_bind ?_
  cases htype : AlertType.ofJson type with
  | error e => exact hticks
  | ok t =>
    refine safe_bind.mpr (Safe.commit hticks.along (fun e => hticks)
      fun db counts db' tidy kept agrees write => ?_)
    have kept₁ : lost₁ = false := Bool.eq_false_iff.mpr fun h =>
      Bool.eq_false_iff.mp kept (meets₂.loses h)
    have halert : st.view db (.alert a.id) = st.view db₁ (.alert a.id) :=
      meets₁.view_eq kept₁ agrees (List.mem_singleton_self _)
    have there : (st.view db (.alert a.id)).isSome := halert ▸ there
    let row : History :=
      { id := some n, alertId := a.id, type := t, data, notifications, triggeredAt := time }
    obtain ⟨m, db₃, _, hpush, write⟩ := writeAll_cons_ok write
    cases write
    have hpush : db.write (.push (st.slotKey (.history a.id)) row.encode) = .ok (m, db') := hpush
    obtain ⟨items, hitems, hview⟩ := view_push hpush
    have records : Applied.Records st a.id row
        ⟨[.push (st.slotKey (.history a.id)) row.encode], db, db'⟩ :=
      ⟨rfl, there, items, hitems, hview⟩
    have recorded := hg.push tick rfl records
    exact ⟨tidy.push there hpush, recorded.along, recorded, t, htype, rfl⟩

theorem safe_createHistory (st : AlertStore) (a : Alert) (type data notifications : Json)
    (time : Moment) :
    Safe st.Tidy ((storeContract st).Along (.createHistory a type data notifications time))
      (st.createHistory a type data notifications time)
      (fun g result => EndsAs st (.createHistory a type data notifications time) g.applied result)
      .start := by
  have nothing : Recorded st a.id none [] := .ticks (List.forall_mem_nil _)
  refine Safe.begins_bind nothing.along fun _ lost _ => ?_
  exact Safe.retry (fun g hg => safe_tryCreateHistory st a type data notifications time hg)
    (fun g e hg => hg) st.attempts.toNat nothing

/-! ### All operations -/

/-- **All operations of a store fulfil its contract.** -/
theorem fulfilled_storeContract (st : AlertStore) : (storeContract st).Fulfilled st where
  start := tidy_empty st
  along request := by
    cases request with
    | createHistory a =>
      have nothing : Recorded st a.id none [] := .ticks (List.forall_mem_nil _)
      exact nothing.along
    | _ => exact along_nil st not_false
  safe request := by
    have reads {request : AlertRequest} (ordinary : ¬IsRecording request)
        (only : ReadsOnly (st.serve request)) (ends : ∀ es result, EndsAs st request es result) :
        Safe st.Tidy ((storeContract st).Along request) (st.serve request)
          (fun g result => EndsAs st request g.applied result) .start :=
      only.safe (along_nil st ordinary) fun _ _ => ends _ _
    cases request with
    | listEnabled => exact reads not_false (.listEnabled st) fun _ _ => trivial
    | listAlerts owner => exact reads not_false (.listAlerts st owner) fun _ _ => trivial
    | get id => exact reads not_false (.get st id) fun _ _ => trivial
    | save a resetBaseline => exact safe_save st a resetBaseline
    | delete id => exact safe_delete st id
    | setChannels id channelIds => exact safe_setChannels st id channelIds
    | updateCursor a u => exact safe_updateCursor st a u
    | createHistory a type data notifications time =>
      exact safe_createHistory st a type data notifications time
    | listHistory id limit => exact reads not_false (.listHistory st id limit) fun _ _ => trivial
    | saveChannel c => exact safe_saveChannel st c
    | getChannel id => exact reads not_false (.readChannel st _) fun _ _ => trivial
    | listChannels owner => exact reads not_false (.listChannels st owner) fun _ _ => trivial
    | deleteChannel id => exact safe_deleteChannel st id

namespace Shared.Reachable

variable {s : Shared}

/-- All that clients have applied is lawful. -/
theorem lawful (h : s.Reachable st) {e : Entry} (he : e ∈ s.journal) :
    Lawful st e.request e.applied := by
  have kept := (fulfilled_storeContract st).kept h
  obtain ⟨c, here, hrequest⟩ := kept.known e he
  obtain ⟨_, _, _, _, _, ⟨lawful, -⟩, -⟩ := kept.holds _ c here
  rw [← hrequest]
  exact lawful e.applied (List.mem_map_of_mem (List.mem_filter.mpr ⟨he, beq_self_eq_true _⟩))

/-- What a client has applied by the end of its operation fits the end. -/
theorem ended (h : s.Reachable st) {i : Nat} {request : AlertRequest}
    {result : Except Failure request.Answer} {watched : List String} {lost : Bool}
    (here : s.sessions[i]? = some ⟨request, .done result, watched, lost⟩) :
    EndsAs st request (s.appliedBy i) result := by
  obtain ⟨g, happlied, _, _, _, _, safe⟩ := ((fulfilled_storeContract st).kept h).holds i _ here
  rw [← happlied]
  exact safe

/-- The journal leads from no data to the data that are there. -/
theorem leads (h : s.Reachable st) : Leads [] s.journal s.data := by
  obtain ⟨new, hjournal, leads⟩ := Steps.leads h
  rw [hjournal]
  exact leads

end Shared.Reachable

end KeyValue

end LogAlert
