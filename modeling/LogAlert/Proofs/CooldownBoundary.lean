import LogAlert.Alert.Cooldown
import LogAlert.Alert.Validation
import LogAlert.Proofs.InstantText
import LogAlert.Proofs.Rounding

/-!
# The end of a cooldown

An alert is in its cooldown up to the microsecond before it is over, and from then on it is
eligible.  The time since the last trigger is compared in seconds of double precision: a cooldown is
short enough to be counted in microseconds without loss, so rounding does not take a time over its
end in either direction, however long the time is.

## Main results

* `Phase.classify_eq` : the phase by the instants of now and of the last trigger.
* `Phase.rested_of_canTrigger` : an alert that may trigger has rested for its whole cooldown.
* `Phase.cooldown_boundary` : when a cooldown ends, and that it stays over.
-/

namespace LogAlert

open LogAlert.Span (second hour day)

namespace Phase

variable {now last : Moment} {c : Int} {phase : Phase}

/-- The time since the last trigger; a trigger without an offset counts as UTC. -/
theorem elapsed?_assumeUtc (aware : now.isAware) (last : Moment) :
    now.elapsed? last.assumeUtc = some (now.instant - last.instant) := by
  rw [Moment.elapsed?, Moment.comparable, aware, Instant.assumeUtc_aware,
    if_pos (beq_self_eq_true true), Moment.instant_assumeUtc]

/-- There is no time from a trigger to a moment without an offset. -/
theorem isAware_of_classify {cooldown : Json}
    (classified : classify now (some last) cooldown = .ok phase) : now.isAware := by
  by_contra naive
  have helapsed : now.elapsed? last.assumeUtc = none :=
    if_neg (by rwa [Moment.comparable, Instant.assumeUtc_aware, beq_true])
  rw [classify] at classified
  dsimp only at classified
  rw [helapsed] at classified
  cases classified

/-- **The phase by the instants.**  The rounded number of seconds is below the cooldown exactly if
the number of microseconds is. -/
theorem classify_eq (aware : now.isAware) (last : Moment) (low : minCooldown ≤ c)
    (high : c ≤ maxCooldown) :
    classify now (some last) (.int c) =
      .ok (if now.instant < last.instant + c * second then .inCooldown else .eligible) := by
  have hmin : minCooldown = 60 := rfl
  have hmax : maxCooldown = 86400 := rfl
  obtain ⟨p, hp, before⟩ : ∃ p, (seconds (now.instant - last.instant)).position? = some p ∧
      p.before (.ofInt c) = decide (now.instant - last.instant < c * (1000000 : Nat)) :=
    Binary64.ofIntRatio_before_iff (by decide) (by decide) (by omega) (by push_cast; omega)
  have habove : (Json.int c).isAbove "float"
      (((seconds (now.instant - last.instant)).position?).getD (.ofInt 0)) =
        .ok (decide (now.instant < last.instant + c * second)) := by
    have hbefore : (Json.int c).isAbove "float" p = .ok (p.before (.ofInt c)) := rfl
    rw [hp, Option.getD_some, hbefore, before]
    exact congrArg Except.ok (decide_eq_decide.mpr sub_lt_iff_lt_add')
  rw [classify]
  dsimp only
  rw [elapsed?_assumeUtc aware]
  dsimp only
  rw [habove]
  by_cases short : now.instant < last.instant + c * second
  · rw [if_pos short, decide_eq_true short]
    rfl
  · rw [if_neg short, decide_eq_false short]
    rfl

/-- An alert that may trigger has rested for its whole cooldown, to the microsecond. -/
theorem rested_of_canTrigger (low : minCooldown ≤ c) (high : c ≤ maxCooldown)
    (classified : classify now (some last) (.int c) = .ok phase) (may : phase.canTrigger) :
    last.instant + c * second ≤ now.instant := by
  rw [classify_eq (isAware_of_classify classified) last low high] at classified
  obtain rfl := Except.ok.inj classified
  by_contra! short
  rw [if_pos short] at may
  cases may

theorem classify_eligible_iff (aware : now.isAware) (last : Moment) (low : minCooldown ≤ c)
    (high : c ≤ maxCooldown) :
    classify now (some last) (.int c) = .ok .eligible ↔
      last.instant + c * second ≤ now.instant := by
  rw [classify_eq aware last low high, ← Int.not_lt]
  split <;> simp_all

/-- **A cooldown ends to the microsecond.**  At a time with an offset, after a last trigger with or
without one, an alert is in its cooldown exactly if the instant of the time is before that of the
trigger plus the cooldown, and eligible otherwise.  So it stays eligible at every later time, and
under every shorter cooldown. -/
theorem cooldown_boundary (aware : now.isAware) (last : Moment) (low : minCooldown ≤ c)
    (high : c ≤ maxCooldown) :
    (classify now (some last) (.int c) = .ok .inCooldown ↔
        now.instant < last.instant + c * second) ∧
      (classify now (some last) (.int c) = .ok .eligible ↔
        last.instant + c * second ≤ now.instant) ∧
      (classify now (some last) (.int c) = .ok .eligible →
        (∀ later : Moment, later.isAware → now.instant ≤ later.instant →
          classify later (some last) (.int c) = .ok .eligible) ∧
        ∀ shorter, minCooldown ≤ shorter → shorter ≤ c →
          classify now (some last) (.int shorter) = .ok .eligible) := by
  have eligible := classify_eligible_iff aware last low high
  refine ⟨?_, eligible, fun ended => ⟨fun later aware' le => ?_, fun shorter low' le => ?_⟩⟩
  · rw [classify_eq aware last low high]
    split <;> simp_all
  · rw [classify_eligible_iff aware' last low high]
    exact Int.le_trans (eligible.mp ended) le
  · rw [classify_eligible_iff aware last low' (Int.le_trans le high)]
    have hspan : shorter * second ≤ c * second := Int.mul_le_mul_of_nonneg_right le (by decide)
    exact Int.le_trans (Int.add_le_add_left hspan _) (eligible.mp ended)

namespace Sample

/-- A trigger by a clock without an offset. -/
def trigger : Moment :=
  ⟨Moment.epoch + 1, none⟩

/-- So many microseconds after the beginning of 1970, by a clock five hours behind UTC. -/
def western (amount : Span) : Moment :=
  ⟨Moment.epoch + amount - 5 * hour, some (-5 * hour)⟩

end Sample

/-- A day after a trigger the alert is in its cooldown one microsecond before the end and eligible
at the end, and then also at the end of the calendar and under the shortest cooldown. -/
theorem cooldown_boundary_of_day :
    (Sample.western day).isAware ∧ (Sample.western (day + 1)).isAware ∧
      classify (Sample.western day) (some Sample.trigger) (.int maxCooldown) = .ok .inCooldown ∧
      classify (Sample.western (day + 1)) (some Sample.trigger) (.int maxCooldown) = .ok .eligible ∧
      classify ⟨Moment.span - 1, some 0⟩ (some Sample.trigger) (.int maxCooldown) = .ok .eligible ∧
      classify (Sample.western (day + 1)) (some Sample.trigger) (.int minCooldown) =
        .ok .eligible := by
  have before : (Sample.western day).isAware := rfl
  have after : (Sample.western (day + 1)).isAware := rfl
  have low : minCooldown ≤ maxCooldown := by decide
  obtain ⟨short, -⟩ := cooldown_boundary before Sample.trigger low (Int.le_refl _)
  obtain ⟨-, eligible, stays⟩ := cooldown_boundary after Sample.trigger low (Int.le_refl _)
  have ended := eligible.mpr (by decide)
  obtain ⟨later, shorter⟩ := stays ended
  exact ⟨before, after, short.mpr (by decide), ended, later _ rfl (by decide),
    shorter _ (Int.le_refl _) low⟩

end Phase

end LogAlert
