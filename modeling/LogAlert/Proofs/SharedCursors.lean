import LogAlert.Proofs.SharedProgress
import LogAlert.Proofs.StoreAgreement

/-!
# Cursors only move forward

Any number of clients move the cursors of alerts at the same time.  Whatever the order in which
their commands reach the server, the record that an alert has seen last only goes up until its
cursor is removed; each move is applied to the very cursor it was computed from; and a move that
fails leaves no trace.

## Main definitions

* `Shared.CursorsAdvance` : what holds of the moves up to a state, and from there on.

## Main results

* `Shared.Steps.seen_le` : what an alert has seen goes up.
* `Shared.Reachable.cursors_advance` : the moves of any number of clients.
-/

namespace LogAlert.KeyValue

open AlertStore

variable {st : AlertStore} {s s' : Shared}

namespace Shared

/-- While no cursor of it is removed, what an alert has seen goes up. -/
theorem Steps.seen_le (steps : Steps st s s') (h : s.Reachable st) {new : List Entry}
    (journal : s'.journal = s.journal ++ new) {id : Option Int}
    (kept : ∀ e ∈ new, ¬e.applied.Resets st id) : st.seen s.data id ≤ st.seen s'.data id := by
  obtain ⟨added, hadded, leads⟩ := steps.leads
  obtain rfl : added = new := List.append_cancel_left (hadded.symm.trans journal)
  refine leads.rel (R := fun db db' => st.seen db id ≤ st.seen db' id)
    (fun _ => seen_le_refl _) seen_le_trans fun e he => ?_
  have later : s'.Reachable st := h.trans steps
  exact (later.lawful (journal ▸ List.mem_append_right _ he)).seen id (kept e he)

/-- Cursors are moved forward, by updates that are atomic. -/
structure CursorsAdvance (st : AlertStore) (s : Shared) : Prop where
  /-- What an alert has seen last does not go down from here on until its cursor is removed. -/
  ascends : ∀ s' new id, Steps st s s' → s'.journal = s.journal ++ new →
    (∀ e ∈ new, ¬e.applied.Resets st id) → st.seen s.data id ≤ st.seen s'.data id
  /-- A cursor is removed with its alert, by a save that resets its baseline, or by the save of a
  new alert. -/
  resets : ∀ e ∈ s.journal, ∀ id, e.applied.Resets st id → MayReset id e.request
  /-- An update that was answered has applied a single move. -/
  moved : ∀ i a u a' watched lost,
    s.sessions[i]? = some ⟨.updateCursor a u, .done (.ok a'), watched, lost⟩ →
      ∃ e, s.appliedBy i = [e] ∧ e.Moves st a u a'
  /-- An update that failed has applied nothing. -/
  failed : ∀ i a u f watched lost,
    s.sessions[i]? = some ⟨.updateCursor a u, .done (.error f), watched, lost⟩ →
      s.appliedBy i = []
  /-- What was applied leads from data to data up to the present ones. -/
  leads : Leads [] s.journal s.data

/-- **Moves of cursors are atomic and go forward, whoever else writes**: in any state that comes of
the steps of any number of clients. -/
theorem Reachable.cursors_advance (h : s.Reachable st) : s.CursorsAdvance st where
  ascends _ _ _ steps journal kept := steps.seen_le h journal kept
  resets _ he := (h.lawful he).resets
  moved _ _ _ _ _ _ here := h.ended here
  failed _ _ _ _ _ _ here := h.ended here
  leads := h.leads

end Shared

namespace AlertStore.Sample

/-- The cursor of the first alert is moved to a record. -/
def moveTo (n : Int) : AlertRequest :=
  .updateCursor { alert with id := some 1 } ⟨some n, none, none⟩

/-- Two clients have read the cursor of a new alert.  The second moves it to the record 9.  The
first loses the race for the record 5, tries again and finds nothing left to change. -/
def race : Shared :=
  Shared.play store (.opens (.save alert false) :: .opens (moveTo 5) :: .opens (moveTo 9) ::
    [0, 0, 0, 1, 1, 1, 2, 2, 2, 1, 2, 2, 1, 1, 1, 1, 1].map Shared.Move.serves)

end AlertStore.Sample

theorem Shared.Reachable.cursors_advance_of_race :
    Sample.race.Reachable Sample.store ∧
      Sample.store.seen Sample.race.data (some 1) = some 9 ∧
      (Sample.race.appliedBy 1).map (·.commands.length) = [0] ∧
      Sample.race.CursorsAdvance Sample.store :=
  ⟨reachable_play _ _, by decide +kernel, by decide +kernel,
    Reachable.cursors_advance (reachable_play _ _)⟩

end LogAlert.KeyValue
