import LogAlert.Alert.Cooldown
import LogAlert.Proofs.StoredForms

/-!
# Cursors that are stored and loaded

A cursor is stored as a table of texts and read from them again.  Its clocks are kept to the
microsecond, and so are their offsets, with one exception: an offset of less than a second comes
back as zero.  An alert whose last trigger has such an offset may leave its cooldown earlier or
later by this much.

## Main definitions

* `Moment.LosesOffset` : the offset of a moment is lost when it is stored.

## Main results

* `Moment.storable_iff` : the moments that are read back.
* `Cursor.reloads_iff` : what is read of a stored cursor, and when it is the cursor.
* `Cursor.small_offset_is_lost` : a cursor that is not read back.
-/

namespace LogAlert

open LogAlert.Span (day second)

/-- The offset of a moment is lost when it is stored: it is less than a second, but not zero. -/
def Moment.LosesOffset (m : Moment) : Prop :=
  ∃ o, m.offset = some o ∧ o ≠ 0 ∧ -second < o ∧ o < second

/-- A moment is read back unless its offset is lost. -/
theorem Moment.reloaded_eq_iff {m : Moment} : m.reloaded = m ↔ ¬m.LosesOffset := by
  have hoffset : m.reloaded = m ↔ m.offset.map Iso.keptOffset = m.offset :=
    ⟨congrArg Moment.offset, fun h => by rw [reloaded, h]⟩
  rw [hoffset, LosesOffset]
  cases m.offset with
  | none =>
    refine iff_of_true rfl ?_
    rintro ⟨_, ho, -⟩
    cases ho
  | some o =>
    rw [Option.map_some, Option.some.injEq, Iso.keptOffset]
    by_cases near : -second < o ∧ o < second
    · rw [if_pos near]
      refine ⟨?_, fun kept => ?_⟩
      · rintro rfl ⟨_, ho, nonzero, -⟩
        exact nonzero (Option.some.inj ho).symm
      · by_contra nonzero
        exact kept ⟨o, rfl, Ne.symm nonzero, near⟩
    · rw [if_neg near]
      refine iff_of_true rfl ?_
      rintro ⟨_, ho, -, small⟩
      obtain rfl := Option.some.inj ho
      exact near small

/-- The moments that can be stored are those of the calendar whose offset is not lost. -/
theorem Moment.storable_iff {m : Moment} : m.Storable ↔ m.Proper ∧ ¬m.LosesOffset := by
  constructor
  · intro storable
    exact ⟨storable.proper, reloaded_eq_iff.mp storable.reloaded_eq⟩
  · rintro ⟨proper, kept⟩
    refine ⟨proper.range, ?_⟩
    cases ho : m.offset with
    | none => trivial
    | some o =>
      refine ⟨proper.offset o ho, ?_⟩
      by_contra small
      obtain ⟨nonzero, above, below⟩ := by rwa [not_or, not_or] at small
      exact kept ⟨o, ho, nonzero, Int.not_le.mp below, Int.not_le.mp above⟩

/-- A time that may be absent is read back unless its offset is lost. -/
theorem Moment.map_reloaded_eq_iff {x : Option Moment} :
    x.map Moment.reloaded = x ↔ ∀ m ∈ x, ¬m.LosesOffset := by
  cases x with
  | none => exact iff_of_true rfl nofun
  | some m =>
    rw [Option.map_some, Option.some.injEq, Moment.reloaded_eq_iff]
    exact ⟨fun kept m' hm => Option.some.inj hm ▸ kept, fun h => h m rfl⟩

namespace Cursor

/-- A cursor is read back unless an offset is lost. -/
theorem reloaded_eq_iff {c : Cursor} :
    c.reloaded = c ↔
      (∀ m ∈ c.lastTriggered, ¬m.LosesOffset) ∧ ∀ m ∈ c.lastChecked, ¬m.LosesOffset := by
  rw [← Moment.map_reloaded_eq_iff, ← Moment.map_reloaded_eq_iff]
  constructor
  · intro h
    exact ⟨congrArg lastTriggered h, congrArg lastChecked h⟩
  · rintro ⟨triggered, checked⟩
    rw [reloaded, triggered, checked]

/-- **A stored cursor** is read back to its record, its clocks and their offsets, where an offset of
less than a second counts as zero.  So it is the same cursor unless such an offset is lost, and at
any time the alert is in the same phase unless the offset of its last trigger is. -/
theorem reloads_iff {c : Cursor} (h : c.Proper) :
    decode c.encode = .ok c.reloaded ∧
      (decode c.encode = .ok c ↔
        (∀ m ∈ c.lastTriggered, ¬m.LosesOffset) ∧ ∀ m ∈ c.lastChecked, ¬m.LosesOffset) ∧
      ((∀ m ∈ c.lastTriggered, ¬m.LosesOffset) → ∀ (now : Moment) (cooldown : Json),
        Phase.classify now c.reloaded.lastTriggered cooldown =
          Phase.classify now c.lastTriggered cooldown) := by
  have decoded := decode_eq_reloaded h fun _ _ => rfl
  refine ⟨decoded, ?_, fun kept now cooldown => ?_⟩
  · rw [decoded, Except.ok.injEq, reloaded_eq_iff]
  · rw [reloaded]
    dsimp only
    rw [Moment.map_reloaded_eq_iff.mpr kept]

namespace Sample

/-- A cursor before the first record, last triggered in the first microsecond of the calendar by a
clock without an offset and last checked in the last one, almost a day behind UTC. -/
def edges : Cursor :=
  ⟨some (-1), some ⟨0, none⟩, some ⟨Moment.span - 1, some (1 - day)⟩⟩

/-- A cursor with a last trigger by a clock that is half a second ahead of UTC. -/
def halfSecond : Cursor :=
  ⟨none, some ⟨63890000000000000, some 500000⟩, none⟩

/-- A minute after the trigger. -/
def minuteLater : Moment :=
  ⟨63890000059500000, some 0⟩

theorem proper_halfSecond : halfSecond.Proper := by
  refine ⟨nofun, fun m hm => ?_, nofun⟩
  cases hm
  exact ⟨by decide, fun o ho => by cases ho; decide⟩

end Sample

/-- The first and the last moment of the calendar. -/
theorem reloads_iff_of_edges :
    Sample.edges.Proper ∧ decode Sample.edges.encode = .ok Sample.edges := by
  have proper : Sample.edges.Proper := by
    refine ⟨fun n hn => ?_, fun m hm => ?_, fun m hm => ?_⟩
    · cases hn
      exact Json.isStorable_int_iff.mp (by decide)
    · cases hm
      exact ⟨by decide, nofun⟩
    · cases hm
      exact ⟨by decide, fun o ho => by cases ho; decide⟩
  refine ⟨proper, (reloads_iff proper).2.1.mpr ⟨fun m hm => ?_, fun m hm => ?_⟩⟩
  · cases hm
    rintro ⟨_, ho, -⟩
    cases ho
  · cases hm
    rintro ⟨_, ho, -, above, -⟩
    cases ho
    exact absurd above (by decide)

/-- An offset of half a second is lost, and the cooldown ends half a second later. -/
theorem small_offset_is_lost :
    Sample.halfSecond.Proper ∧ decode Sample.halfSecond.encode ≠ .ok Sample.halfSecond ∧
      (Phase.classify Sample.minuteLater Sample.halfSecond.lastTriggered (.int 60)).toOption =
        some .eligible ∧
      (Phase.classify Sample.minuteLater Sample.halfSecond.reloaded.lastTriggered
        (.int 60)).toOption = some .inCooldown := by
  refine ⟨Sample.proper_halfSecond, ?_, by decide +kernel, by decide +kernel⟩
  rw [decode_eq_reloaded Sample.proper_halfSecond fun _ _ => rfl]
  exact fun h => absurd (Except.ok.inj h) (by decide)

end Cursor

end LogAlert
