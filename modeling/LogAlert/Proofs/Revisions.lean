import LogAlert.Proofs.KeptBook
import LogAlert.Proofs.ReachableStores

/-!
# Revisions of an alert

Two requests write to an alert that is there: its settings are saved, and its cursor is moved.
Each comes with a copy of the alert that may be out of date in every part.  A save takes the
settings of its copy and nothing else, and a move takes nothing of its copy but the id.

So the alert after any revisions is known from the saves alone and the moves alone, and a save may
change places with a move.

## Main definitions

* `Revision` : a save or a move, with the copy that it comes with.
* `Alert.revised` : an alert after revisions.
* `Revision.Rearranged` : the same saves and the same moves, differently mixed.
* `AlertBook.revise` : a book after revisions.

## Main results

* `Alert.foldl_after` : revisions one after the other make an alert the revised one.
* `Revision.foldl_eq_of_rearranged` : if saves change places with moves, the mixture is immaterial.
* `AlertBook.get_revise`, `AlertBook.revise_rearranged` : revisions of an alert in a book.
-/

namespace LogAlert

/-- A write to an alert that is there, with the copy of the alert that it comes with. -/
inductive Revision where
  /-- The settings are saved, and the baseline is kept. -/
  | save (copy : Alert)
  /-- The cursor is moved. -/
  | move (copy : Alert) (update : Cursor)

namespace Revision

/-- The request that asks for a revision. -/
def request : Revision → AlertRequest
  | .save copy => .save copy false
  | .move copy update => .updateCursor copy update

/-- The copy of the alert that a revision comes with. -/
def copy : Revision → Alert
  | .save copy | .move copy _ => copy

/-- Whether a revision is a save. -/
def isSave : Revision → Bool
  | .save _ => true
  | .move .. => false

/-- The settings that a revision saves. -/
def settings? : Revision → Option AlertSettings
  | .save copy => some copy.settings
  | .move .. => none

/-- The update by which a revision moves the cursor. -/
def update? : Revision → Option Cursor
  | .save _ => none
  | .move _ update => some update

/-- The settings that revisions save, in order. -/
def saved (rs : List Revision) : List AlertSettings :=
  rs.filterMap settings?

/-- The updates by which revisions move the cursor, in order. -/
def updates (rs : List Revision) : List Cursor :=
  rs.filterMap update?

/-- The same saves and the same moves in the same orders, but differently mixed. -/
structure Rearranged (rs rs' : List Revision) : Prop where
  saves : rs'.filter (·.isSave) = rs.filter (·.isSave)
  moves : rs'.filter (!·.isSave) = rs.filter (!·.isSave)

/-- Revisions that are differently mixed are the same ones. -/
theorem Rearranged.mem {rs rs' : List Revision} (h : Rearranged rs rs') {r : Revision}
    (hr : r ∈ rs') : r ∈ rs := by
  by_cases save : r.isSave
  · exact (List.mem_filter.mp (h.saves ▸ List.mem_filter.mpr ⟨hr, save⟩)).1
  · exact (List.mem_filter.mp (h.moves ▸ List.mem_filter.mpr ⟨hr, by simp [save]⟩)).1

end Revision

open Revision (saved updates Rearranged)

/-! ### The revised alert -/

/-- An alert after revisions: its settings are those of the last save, its last record seen is the
largest of its own and those of all the moves, and its times are those that were given last.  What
no revision gives is as before. -/
def Alert.revised (a : Alert) (rs : List Revision) : Alert :=
  { a with
    settings := (saved rs).getLast?.getD a.settings
    cursor :=
      { lastSeen := (a.cursor.lastSeen.toList ++ (updates rs).filterMap (·.lastSeen)).max?
        lastTriggered :=
          ((updates rs).filterMap (·.lastTriggered)).getLast?.or a.cursor.lastTriggered
        lastChecked := ((updates rs).filterMap (·.lastChecked)).getLast?.or a.cursor.lastChecked } }

/-- An alert after one revision. -/
def Alert.after (a : Alert) : Revision → Alert
  | .save copy => { a with settings := copy.settings }
  | .move _ update => { a with cursor := a.cursor.advance update }

/-- The last value given, after one more. -/
private theorem getLast?_filterMap_cons {α β : Type} (f : α → Option β) (a : α) (as : List α)
    (first : Option β) :
    ((a :: as).filterMap f).getLast?.or first = (as.filterMap f).getLast?.or ((f a).or first) := by
  rw [List.filterMap_cons]
  cases f a with
  | none => rfl
  | some b => cases h : as.filterMap f <;> simp [List.getLast?_cons]

namespace Cursor

/-- A cursor that moves has seen the later one of two records. -/
theorem lastSeen_advance (c u : Cursor) :
    (c.advance u).lastSeen = (c.lastSeen.toList ++ u.lastSeen.toList).max? := by
  rw [advance, write, changes]
  cases hu : u.lastSeen with
  | none => cases c.lastSeen <;> rfl
  | some n =>
    cases hc : c.lastSeen with
    | none => rfl
    | some m =>
      by_cases newer : m ≤ n
      · simp [Option.filter_some, newer]
      · simp [Option.filter_some, newer, Int.max_eq_left (Int.le_of_not_le newer)]

/-- A cursor after updates: the latest record seen, and the times that were given last. -/
theorem foldl_advance (us : List Cursor) (c : Cursor) :
    us.foldl advance c =
      { lastSeen := (c.lastSeen.toList ++ us.filterMap (·.lastSeen)).max?
        lastTriggered := (us.filterMap (·.lastTriggered)).getLast?.or c.lastTriggered
        lastChecked := (us.filterMap (·.lastChecked)).getLast?.or c.lastChecked } := by
  induction us generalizing c with
  | nil =>
    obtain ⟨_ | seen, triggered, checked⟩ := c <;> rfl
  | cons u us ih =>
    have seen : ((c.advance u).lastSeen.toList ++ us.filterMap (·.lastSeen)).max? =
        (c.lastSeen.toList ++ (u :: us).filterMap (·.lastSeen)).max? := by
      rw [lastSeen_advance, List.filterMap_cons]
      cases c.lastSeen <;> cases u.lastSeen <;> rfl
    rw [List.foldl_cons, ih, seen, getLast?_filterMap_cons, getLast?_filterMap_cons]
    rfl

end Cursor

/-- **Revisions one after the other** make an alert the revised one. -/
theorem Alert.foldl_after (rs : List Revision) (a : Alert) :
    rs.foldl Alert.after a = a.revised rs := by
  have parts : rs.foldl Alert.after a =
      { a with
        settings := (saved rs).getLast?.getD a.settings
        cursor := (updates rs).foldl Cursor.advance a.cursor } := by
    induction rs generalizing a with
    | nil => rfl
    | cons r rs ih =>
      rw [List.foldl_cons, ih]
      cases r with
      | save copy =>
        have last : (saved (.save copy :: rs)).getLast?.getD a.settings =
            (saved rs).getLast?.getD copy.settings := by
          change (copy.settings :: saved rs).getLast?.getD _ = _
          rw [List.getLast?_cons, Option.getD_some]
        rw [last]
        rfl
      | move copy update => rfl
  rw [parts, Cursor.foldl_advance]
  rfl

/-! ### Places -/

section Places

variable {σ : Type} {step : σ → Revision → σ} {Inv : σ → Prop} {Own : Revision → Prop}

/-- If a save may change places with a move, all saves may be made before all moves. -/
theorem Revision.foldl_saves_first
    (kept : ∀ {s r}, Inv s → Own r → Inv (step s r))
    (swap : ∀ {s r m}, Inv s → Own r → Own m → r.isSave = true → m.isSave = false →
      step (step s m) r = step (step s r) m)
    {rs : List Revision} (own : ∀ r ∈ rs, Own r) {s : σ} (hs : Inv s) :
    rs.foldl step s =
      (rs.filter (!·.isSave)).foldl step ((rs.filter (·.isSave)).foldl step s) := by
  -- one move passes all saves
  have pass {saves : List Revision} {m : Revision} (hm : Own m) (move : m.isSave = false)
      (hsaves : ∀ r ∈ saves, Own r ∧ r.isSave = true) {s : σ} (hs : Inv s) :
      saves.foldl step (step s m) = step (saves.foldl step s) m := by
    induction saves generalizing s with
    | nil => rfl
    | cons r saves ih =>
      obtain ⟨⟨hr, save⟩, others⟩ := List.forall_mem_cons.mp hsaves
      rw [List.foldl_cons, List.foldl_cons, swap hs hr hm save move, ih others (kept hs hr)]
  induction rs generalizing s with
  | nil => rfl
  | cons r rs ih =>
    obtain ⟨hr, others⟩ := List.forall_mem_cons.mp own
    rw [List.foldl_cons, ih others (kept hs hr)]
    by_cases save : r.isSave = true
    · simp [save]
    · have hsaves : ∀ r ∈ rs.filter (·.isSave), Own r ∧ r.isSave = true := fun r hr =>
        ⟨others r (List.mem_filter.mp hr).1, (List.mem_filter.mp hr).2⟩
      simp [save, pass hr (by simpa using save) hsaves hs]

/-- **The mixture is immaterial** if a save may change places with a move. -/
theorem Revision.foldl_eq_of_rearranged (Inv : σ → Prop) (Own : Revision → Prop)
    (kept : ∀ {s r}, Inv s → Own r → Inv (step s r))
    (swap : ∀ {s r m}, Inv s → Own r → Own m → r.isSave = true → m.isSave = false →
      step (step s m) r = step (step s r) m)
    {rs rs' : List Revision} (h : Rearranged rs rs') (own : ∀ r ∈ rs, Own r) {s : σ} (hs : Inv s) :
    rs'.foldl step s = rs.foldl step s := by
  rw [foldl_saves_first kept swap own hs,
    foldl_saves_first kept swap (fun r hr => own r (h.mem hr)) hs, h.saves, h.moves]

end Places

/-! ### Revisions in a book -/

namespace AlertBook

/-- A book after the requests for revisions, one after the other. -/
def revise (b : AlertBook) (rs : List Revision) : AlertBook :=
  rs.foldl (fun b r => (b.answer r.request).2) b

variable {b : AlertBook} {i : Int} {a : Alert} {r : Revision}

/-- An alert is read if it is kept under its id. -/
theorem get_eq_some (hb : b.Keyed) :
    b.get (some i) = some a ↔ ∃ x, b.alerts.get? i = some x ∧ x.id = some i ∧
      a = { x with channels := (b.linked (some i)).filterMap b.channels.get? } := by
  rw [get, Option.bind_some, Option.map_eq_some_iff]
  refine exists_congr fun x => and_congr_right fun there => ?_
  have id := hb.id_eq there
  rw [load_eq b id]
  exact ⟨fun h => ⟨id, h.symm⟩, fun h => h.2.symm⟩

/-- Saving an alert that is there keeps its cursor. -/
theorem save_there {copy x : Alert} (own : copy.id = some i) (there : b.alerts.get? i = some x) :
    (b.answer (.save copy false)).2 = (b.store i copy x.cursor).1 := by
  change (b.save copy false).1 = _
  rw [save_old own, cursorFor, there]
  rfl

theorem updateCursor_there {copy x : Alert} (own : copy.id = some i)
    (there : b.alerts.get? i = some x) (u : Cursor) :
    (b.answer (.updateCursor copy u)).2 =
      { b with alerts := b.alerts.put i { x with cursor := x.cursor.advance u } } := by
  change (b.updateCursor copy.id u).1 = _
  rw [own, updateCursor_ok there]

/-- After one revision of an alert, the alert after it is read. -/
theorem get_revision (hb : b.Keyed) (there : b.get (some i) = some a)
    (own : r.copy.id = some i) : (b.answer r.request).2.get (some i) = some (a.after r) := by
  have kept := hb.answer r.request
  obtain ⟨x, hx, id, rfl⟩ := (get_eq_some hb).mp there
  rw [get_eq_some kept]
  cases r with
  | save copy =>
    have saved : (b.answer (.save copy false)).2 = _ := save_there own hx
    rw [Revision.request, saved, linked_store]
    refine ⟨_, Table.get?_put_self .., rfl, ?_⟩
    simp [Alert.after, store, id]
  | move copy u =>
    have moved : (b.answer (.updateCursor copy u)).2 = _ := updateCursor_there own hx u
    rw [Revision.request, moved]
    exact ⟨_, Table.get?_put_self .., id, rfl⟩

/-- **Revisions of an alert in a book**: the revised alert is read after them. -/
theorem get_revise {rs : List Revision} (hb : b.Keyed) (there : b.get (some i) = some a)
    (own : ∀ r ∈ rs, r.copy.id = some i) :
    (b.revise rs).get (some i) = some (a.revised rs) := by
  rw [← Alert.foldl_after]
  induction rs generalizing b a with
  | nil => exact there
  | cons r rs ih =>
    obtain ⟨head, tail⟩ := List.forall_mem_cons.mp own
    exact ih (hb.answer _) (get_revision hb there head) tail

/-- A save of an alert that is there may change places with a move of its cursor. -/
theorem save_move {copy copy' x : Alert} {u : Cursor} (save : copy.id = some i)
    (move : copy'.id = some i) (there : b.alerts.get? i = some x) :
    ((b.answer (.updateCursor copy' u)).2.answer (.save copy false)).2 =
      ((b.answer (.save copy false)).2.answer (.updateCursor copy' u)).2 := by
  rw [updateCursor_there move there, save_there save there,
    save_there (x := { x with cursor := x.cursor.advance u }) save (Table.get?_put_self ..),
    updateCursor_there (x := { copy with id := some i, channels := [], cursor := x.cursor }) move
      (Table.get?_put_self ..)]
  simp only [store, Table.put_put]

/-- **Differently mixed revisions** of an alert leave the same book. -/
theorem revise_rearranged {rs rs' : List Revision} (h : Rearranged rs rs') (hb : b.Keyed)
    (there : b.get (some i) = some a) (own : ∀ r ∈ rs, r.copy.id = some i) :
    b.revise rs' = b.revise rs := by
  refine Revision.foldl_eq_of_rearranged (fun b => b.Keyed ∧ ∃ a, b.get (some i) = some a)
    (fun r => r.copy.id = some i) ?_ ?_ h own ⟨hb, a, there⟩
  · rintro b r ⟨hb, a, there⟩ own
    exact ⟨hb.answer _, _, get_revision hb there own⟩
  · rintro b r m ⟨hb, a, there⟩ hr hm save move
    obtain ⟨x, hx, -⟩ := (get_eq_some hb).mp there
    cases r with
    | move => simp [Revision.isSave] at save
    | save copy =>
      cases m with
      | save => simp [Revision.isSave] at move
      | move copy' u => exact save_move hr hm hx

end AlertBook

end LogAlert
