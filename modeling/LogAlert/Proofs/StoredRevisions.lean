import LogAlert.Proofs.StoreAgreement

/-!
# Revisions of an alert in a key-value server

Revisions of an alert come to the same in a key-value server as in a book, as saves and moves write
to different keys.  The one difference is in the texts: a time whose offset is less than a second is
read back without the offset.

## Main definitions

* `Revision.Proper` : the values of a revision can be stored.
* `Revision.reloaded` : a revision with its times as they are read back.
* `AlertStore.revise` : a server after revisions.

## Main results

* `AlertStore.There.revise`, `AlertStore.There.revise_rearranged` : revisions of an alert on a
  server.
* `Revision.edits_apart_from_progress` : revisions of an alert in either store.
* `Revision.small_offset_is_not_kept` : a revision that a server does not give back.
-/

namespace LogAlert

open KeyValue AlertStore
open Revision (Rearranged updates)
open Simulation (Server)
open Simulation.Server

/-! ### Revisions by their texts -/

namespace Revision

/-- The values of a revision can be stored: settings and ids that are read back, and for a cursor
integers of at most 4300 digits and moments of the calendar. -/
def Proper : Revision → Prop
  | .save copy => copy.settings.Storable ∧ (Json.ofInt? copy.id).isStorable
  | .move _ update => update.Proper

/-- A revision with its times as they are read back. -/
def reloaded : Revision → Revision
  | .save copy => .save copy
  | .move copy update => .move copy update.reloaded

theorem saved_reloaded (rs : List Revision) : saved (rs.map reloaded) = saved rs := by
  rw [saved, List.filterMap_map]
  exact List.filterMap_congr fun r _ => by cases r <;> rfl

theorem updates_reloaded (rs : List Revision) :
    updates (rs.map reloaded) = (updates rs).map Cursor.reloaded := by
  rw [updates, updates, List.filterMap_map, List.map_filterMap]
  exact List.filterMap_congr fun r _ => by cases r <;> rfl

end Revision

/-- The time that was given last, as it is read back. -/
private theorem getLast?_reloaded {part : Cursor → Option Moment}
    (hpart : ∀ c, part c.reloaded = (part c).map Moment.reloaded) (us : List Cursor) :
    ((us.map Cursor.reloaded).filterMap part).getLast? =
      (us.filterMap part).getLast?.map Moment.reloaded := by
  rw [List.filterMap_map, ← List.getLast?_map, List.map_filterMap]
  exact congrArg _ (List.filterMap_congr fun c _ => hpart c)

private theorem map_reloaded_or_eq_iff {x y : Option Moment} :
    (x.map Moment.reloaded).or y = x.or y ↔ ∀ m ∈ x, ¬m.LosesOffset := by
  rw [← Moment.map_reloaded_eq_iff]
  cases x with
  | none => exact iff_of_true rfl rfl
  | some m => rfl

/-- **The times that are read back make no difference** to a revised alert exactly if of those that
were given last no offset is lost. -/
theorem Alert.revised_reloaded_eq_iff {a : Alert} {rs : List Revision} :
    a.revised (rs.map Revision.reloaded) = a.revised rs ↔
      (∀ m ∈ ((updates rs).filterMap (·.lastTriggered)).getLast?, ¬m.LosesOffset) ∧
        ∀ m ∈ ((updates rs).filterMap (·.lastChecked)).getLast?, ¬m.LosesOffset := by
  have seen : ((updates rs).map Cursor.reloaded).filterMap (·.lastSeen) =
      (updates rs).filterMap (·.lastSeen) := by
    rw [List.filterMap_map]
    rfl
  rw [← map_reloaded_or_eq_iff (y := a.cursor.lastTriggered),
    ← map_reloaded_or_eq_iff (y := a.cursor.lastChecked), revised, revised,
    Revision.saved_reloaded, Revision.updates_reloaded, seen, getLast?_reloaded fun _ => rfl,
    getLast?_reloaded fun _ => rfl]
  constructor
  · intro same
    have cursor := congrArg Alert.cursor same
    exact ⟨congrArg Cursor.lastTriggered cursor, congrArg Cursor.lastChecked cursor⟩
  · rintro ⟨triggered, checked⟩
    rw [triggered, checked]

/-! ### Revisions on a server -/

namespace KeyValue.AlertStore

/-- A server after the requests for revisions, one after the other. -/
def revise (st : AlertStore) (s : Server) (rs : List Revision) : Server :=
  rs.foldl (fun s r => (st.answer r.request s).2) s

variable {st : AlertStore} {db : Database} {i : Int} {a : Alert}

namespace There

/-- After one revision of an alert, the alert after it is there. -/
theorem revision (h : st.There db i a) (attempts : 0 < st.attempts) {r : Revision}
    (own : r.copy.id = some i) (proper : r.Proper) :
    ∃ db', (st.answer r.request ⟨db, []⟩).2 = ⟨db', []⟩ ∧
      st.There db' i (a.after r.reloaded) := by
  cases r with
  | save copy =>
    obtain ⟨document, encoded, decoded⟩ := Alert.decode_document proper.1 proper.2
    obtain ⟨hends, there⟩ := h.save own encoded decoded
    exact ⟨_, congrArg Prod.snd hends, there⟩
  | move copy u =>
    obtain ⟨entries, hentries, stored⟩ := h.keeps.cursor
    obtain ⟨hends, there⟩ := h.move attempts own proper hentries stored
    exact ⟨_, congrArg Prod.snd hends, there⟩

/-- **Revisions of an alert on a server**: the revised alert is there after them, with its times as
they are read back. -/
theorem revise (h : st.There db i a) (attempts : 0 < st.attempts) {rs : List Revision}
    (own : ∀ r ∈ rs, r.copy.id = some i) (proper : ∀ r ∈ rs, r.Proper) :
    ∃ db', st.revise ⟨db, []⟩ rs = ⟨db', []⟩ ∧
      st.There db' i (a.revised (rs.map Revision.reloaded)) := by
  rw [← Alert.foldl_after, List.foldl_map]
  induction rs generalizing db a with
  | nil => exact ⟨db, rfl, h⟩
  | cons r rs ih =>
    obtain ⟨hown, own⟩ := List.forall_mem_cons.mp own
    obtain ⟨hproper, proper⟩ := List.forall_mem_cons.mp proper
    obtain ⟨db₁, hanswer, there⟩ := h.revision attempts hown hproper
    obtain ⟨db₂, hrevise, there⟩ := ih there own proper
    refine ⟨db₂, ?_, there⟩
    rw [AlertStore.revise, List.foldl_cons, hanswer]
    exact hrevise

/-- A save of an alert that is there may change places with a move of its cursor. -/
theorem save_move (h : st.There db i a) (attempts : 0 < st.attempts) {copy copy' : Alert}
    {u : Cursor} (save : copy.id = some i) (move : copy'.id = some i)
    (hsave : (Revision.save copy).Proper) (hmove : (Revision.move copy' u).Proper) :
    (st.answer (.save copy false) (st.answer (.updateCursor copy' u) ⟨db, []⟩).2).2 =
      (st.answer (.updateCursor copy' u) (st.answer (.save copy false) ⟨db, []⟩).2).2 := by
  obtain ⟨document, encoded, decoded⟩ := Alert.decode_document hsave.1 hsave.2
  obtain ⟨entries, hentries, stored⟩ := h.keeps.cursor
  obtain ⟨raw, hraw, -⟩ := h.keeps.document
  obtain ⟨saved, thereSaved⟩ := h.save save encoded decoded
  obtain ⟨moved, thereMoved⟩ := h.move attempts move hmove hentries stored
  have hentries' :
      (st.withDocument db i document).entries (st.slotKey (.cursor (some i))) = .ok entries :=
    (Database.entries_congr (get?_put_slot (by simp) _)).trans hentries
  have first : (st.answer (.updateCursor copy' u) ⟨db, []⟩).2 = _ := congrArg Prod.snd moved
  have second : (st.answer (.save copy false) ⟨db, []⟩).2 = _ := congrArg Prod.snd saved
  have third : (st.answer (.save copy false) ⟨st.withChanges db i entries _, []⟩).2 = _ :=
    congrArg Prod.snd (thereMoved.save save encoded decoded).1
  have fourth : (st.answer (.updateCursor copy' u) ⟨st.withDocument db i document, []⟩).2 = _ :=
    congrArg Prod.snd (thereSaved.move attempts move hmove hentries' stored).1
  rw [first, second, third, fourth]
  -- the document is there already, and keeps its place
  have key : st.slotKey (.alert (some i)) ∈ db.keys := by
    rw [Table.mem_keys, Database.get?_of_text hraw]
    rfl
  change (⟨st.withDocument (st.withChanges db i entries _) i document, []⟩ : Server) =
    ⟨st.withChanges (st.withDocument db i document) i entries (a.cursor.changes u), []⟩
  rw [withChanges, withChanges]
  split
  · rfl
  · rw [withDocument, withDocument, Table.put_comm key (mt slotKey_inj.mp (by simp))]

/-- **Differently mixed revisions** of an alert leave the same server. -/
theorem revise_rearranged (h : st.There db i a) (attempts : 0 < st.attempts)
    {rs rs' : List Revision} (rearranged : Rearranged rs rs')
    (own : ∀ r ∈ rs, r.copy.id = some i) (proper : ∀ r ∈ rs, r.Proper) :
    st.revise ⟨db, []⟩ rs' = st.revise ⟨db, []⟩ rs := by
  refine Revision.foldl_eq_of_rearranged
    (fun s => ∃ db a, s = ⟨db, []⟩ ∧ st.There db i a)
    (fun r => r.copy.id = some i ∧ r.Proper) ?_ ?_ rearranged
    (fun r hr => ⟨own r hr, proper r hr⟩) ⟨db, a, rfl, h⟩
  · rintro s r ⟨db, a, rfl, there⟩ ⟨own, proper⟩
    obtain ⟨db', hanswer, there⟩ := there.revision attempts own proper
    exact ⟨db', _, hanswer, there⟩
  · rintro s r m ⟨db, a, rfl, there⟩ ⟨hr, rproper⟩ ⟨hm, mproper⟩ save move
    cases r with
    | move => simp [Revision.isSave] at save
    | save copy =>
      cases m with
      | save => simp [Revision.isSave] at move
      | move copy' u => exact there.save_move attempts hr hm rproper mproper

end There

end KeyValue.AlertStore

/-! ### Both stores -/

/-- **Settings and progress do not overwrite each other.**  An alert that is there is saved without
resetting the baseline, and its cursor is moved, in any order and number and with copies of the
alert that may be out of date in everything but the id.  Then the settings are those of the last
save, the last record seen is the largest one given, and the times are those given last; and how
saves and moves are mixed is immaterial.  This holds of a book, and of a key-value server that
raises no error and that nobody else writes to, except that the server gives back a time whose
offset is lost without the offset. -/
theorem Revision.edits_apart_from_progress {i : Int} {a : Alert} {rs : List Revision}
    (own : ∀ r ∈ rs, r.copy.id = some i) :
    (∀ {b : AlertBook}, b.Reachable → b.get (some i) = some a →
      (b.revise rs).get (some i) = some (a.revised rs) ∧
        ∀ {rs'}, Rearranged rs rs' → b.revise rs' = b.revise rs) ∧
    ∀ {st : AlertStore} {db : Database}, 0 < st.attempts → st.There db i a →
      (∀ r ∈ rs, r.Proper) →
        ∃ db', st.revise ⟨db, []⟩ rs = ⟨db', []⟩ ∧
          Ends (st.get (some i)) db' (.ok (some (a.revised (rs.map reloaded)))) db' ∧
          (a.revised (rs.map reloaded) = a.revised rs ↔
            (∀ m ∈ ((updates rs).filterMap (·.lastTriggered)).getLast?, ¬m.LosesOffset) ∧
              ∀ m ∈ ((updates rs).filterMap (·.lastChecked)).getLast?, ¬m.LosesOffset) ∧
          ∀ {rs'}, Rearranged rs rs' → st.revise ⟨db, []⟩ rs' = ⟨db', []⟩ := by
  refine ⟨fun reachable there => ?_, fun attempts there proper => ?_⟩
  · exact ⟨AlertBook.get_revise reachable.keyed there own, fun rearranged =>
      AlertBook.revise_rearranged rearranged reachable.keyed there own⟩
  · obtain ⟨db', hrevise, there'⟩ := there.revise attempts own proper
    exact ⟨db', hrevise, there'.read, Alert.revised_reloaded_eq_iff, fun rearranged =>
      (there.revise_rearranged attempts rearranged own proper).trans hrevise⟩

namespace Revision.Sample

open KeyValue.AlertStore.Sample (alert noon storable_noon)

/-- An alert as it is read after it was saved for the first time. -/
def first : Alert := { alert with id := some 1 }

/-- The same alert with other settings. -/
def edited : Alert :=
  { first with settings := { first.settings with name := .str "failures", cooldown := .int 60 } }

/-- The cursor moves, the settings are saved, and the cursor is to move back.  None of the copies
was read again. -/
def revisions : List Revision :=
  [.move first ⟨some 7, some noon, none⟩, .save edited, .move first ⟨some 3, none, some noon⟩]

/-- The settings are saved before the cursor moves. -/
def savedFirst : List Revision :=
  [.save edited, .move first ⟨some 7, some noon, none⟩, .move first ⟨some 3, none, some noon⟩]

/-- A book with the alert. -/
def book : AlertBook := (AlertBook.empty.answer (.save alert false)).2

/-- The alert after the revisions. -/
def last : Alert := { edited with cursor := ⟨some 7, some noon, some noon⟩ }

theorem proper_revisions : ∀ r ∈ revisions, r.Proper := by
  have seven : (⟨some 7, some noon, none⟩ : Cursor).Storable :=
    ⟨fun n hn => by cases hn; decide, fun m hm => by cases hm; exact storable_noon, nofun⟩
  have three : (⟨some 3, none, some noon⟩ : Cursor).Storable :=
    ⟨fun n hn => by cases hn; decide, nofun, fun m hm => by cases hm; exact storable_noon⟩
  have settings : edited.settings.Storable := ⟨⟨.anyMatch, rfl⟩, by decide⟩
  simp only [revisions, List.forall_mem_cons, List.not_mem_nil, false_imp_iff, implies_true,
    and_true]
  exact ⟨seven.proper, ⟨settings, by decide⟩, three.proper⟩

/-- The alert is told of a trigger by a clock that is half a second ahead of UTC. -/
def halfSecondAhead : List Revision :=
  [.move first Cursor.Sample.halfSecond]

end Revision.Sample

open Revision.Sample in
/-- A save between two moves of the cursor, and before both of them. -/
theorem Revision.edits_apart_from_progress_of_sample :
    (book.revise revisions).get (some 1) = some last ∧
      book.revise savedFirst = book.revise revisions ∧
      ∃ db db', Sample.store.revise ⟨db, []⟩ revisions = ⟨db', []⟩ ∧
        Ends (Sample.store.get (some 1)) db' (.ok (some last)) db' ∧
        Sample.store.revise ⟨db, []⟩ savedFirst = ⟨db', []⟩ := by
  have own : ∀ r ∈ revisions, r.copy.id = some 1 := by simp [revisions, copy, first, edited]
  have rearranged : Rearranged revisions savedFirst := ⟨rfl, rfl⟩
  obtain ⟨inBook, onServer⟩ := edits_apart_from_progress (a := first) own
  obtain ⟨read, same⟩ := inBook (b := book) (.answer .empty _) rfl
  obtain ⟨db, -, there, -⟩ := Sample.exists_there
  obtain ⟨db', hrevise, hread, -, hsame⟩ := onServer (by decide) there proper_revisions
  exact ⟨read, same rearranged, db, db', hrevise, hread, hsame rearranged⟩

open Revision.Sample in
/-- A book keeps the time of a trigger whose offset is half a second, and a server does not. -/
theorem Revision.small_offset_is_not_kept :
    (∀ r ∈ halfSecondAhead, r.copy.id = some 1 ∧ r.Proper) ∧
      (book.revise halfSecondAhead).get (some 1) = some (first.revised halfSecondAhead) ∧
      ∃ db db', (Sample.store.answer (.save AlertStore.Sample.alert false) .empty).2 = ⟨db, []⟩ ∧
        Sample.store.There db 1 first ∧
        Sample.store.revise ⟨db, []⟩ halfSecondAhead = ⟨db', []⟩ ∧
        ¬Ends (Sample.store.get (some 1)) db' (.ok (some (first.revised halfSecondAhead))) db' := by
  have proper : ∀ r ∈ halfSecondAhead, r.copy.id = some 1 ∧ r.Proper :=
    List.forall_mem_singleton.mpr ⟨rfl, Cursor.Sample.proper_halfSecond⟩
  obtain ⟨db, saved, there, -⟩ := Sample.exists_there
  obtain ⟨db', revised, there'⟩ :=
    there.revise (by decide) (fun r hr => (proper r hr).1) fun r hr => (proper r hr).2
  refine ⟨proper, rfl, db, db', saved, there, revised, fun kept => ?_⟩
  -- what is read is the reloaded time
  cases there'.read.symm.trans kept

end LogAlert
