import LogAlert.Calendar.Moment

/-!
# Dates and the count of days

The count of a date's day and the date of a day's count are inverse to each other, for all days
of the years 1 to 9999.

## Main definitions

* `Date.Valid` : the dates that are in the calendar.

## Main results

* `Date.make_eq_ok`, `Date.make?_spec` : a date in the calendar is made from its numbers.
* `Date.ordinal_le` : the days of a year end with it.
* `Date.ofOrdinal_spec` : the date of a count is in the calendar and has this count.
* `Moment.wall_eq` : the time on a clock by date and time of day.
-/

namespace LogAlert

namespace Date

/-- A date of the calendar. -/
structure Valid (d : Date) : Prop where
  year_pos : 1 ≤ d.year
  year_le : d.year ≤ maxYear
  month_pos : 1 ≤ d.month
  month_le : d.month ≤ 12
  day_pos : 1 ≤ d.day
  day_le : d.day ≤ daysInMonth d.year d.month

theorem make_eq_ok {d : Date} (h : d.Valid) : make d.year d.month d.day = .ok d := by
  obtain ⟨h₁, h₂, h₃, h₄, h₅, h₆⟩ := h
  rw [make, if_neg, if_neg, if_neg]
  · rw [Bool.or_eq_true, decide_eq_true_eq, decide_eq_true_eq]
    omega
  · rw [Bool.or_eq_true, decide_eq_true_eq, decide_eq_true_eq]
    omega
  · rw [Bool.or_eq_true, decide_eq_true_eq, decide_eq_true_eq]
    omega

theorem make?_spec {year month day : Nat} {d : Date} (h : make? year month day = some d) :
    d = ⟨year, month, day⟩ ∧ d.Valid := by
  rw [make?, make] at h
  split at h
  · cases h
  split at h
  · cases h
  split at h
  · cases h
  next hyear hmonth hday =>
    simp only [Bool.or_eq_true, decide_eq_true_eq, not_or, Nat.not_lt] at hyear hmonth hday
    obtain rfl := Option.some.inj h
    exact ⟨rfl, hyear.1, hyear.2, hmonth.1, hmonth.2, hday.1, hday.2⟩

/-! ### Months -/

/-- A day that is in one of some months is split into the month and the day of it. -/
theorem splitMonths_spec (lens : List Nat) (n : Nat) (h : n < lens.foldr (· + ·) 0) :
    (splitMonths lens n).1 < lens.length ∧
      (splitMonths lens n).2 < lens.getD (splitMonths lens n).1 0 ∧
      (lens.take (splitMonths lens n).1).foldr (· + ·) 0 + (splitMonths lens n).2 = n := by
  induction lens generalizing n with
  | nil => exact absurd h (Nat.not_lt_zero n)
  | cons len lens ih =>
    rw [splitMonths]
    split
    · next hlt => exact ⟨Nat.succ_pos _, hlt, Nat.zero_add n⟩
    · next hge =>
      rw [List.foldr_cons] at h
      obtain ⟨hmonth, hday, hsum⟩ := ih (n - len) (by omega)
      refine ⟨Nat.succ_lt_succ hmonth, hday, ?_⟩
      dsimp only
      rw [List.take_succ_cons, List.foldr_cons]
      omega

theorem length_monthLengths (leap : Bool) : (monthLengths leap).length = 12 := rfl

theorem days_monthLengths (leap : Bool) :
    (monthLengths leap).foldr (· + ·) 0 = if leap then 366 else 365 := by
  cases leap <;> rfl

/-! ### Years -/

/-- The years of a cycle of 400 years, as they are counted off in centuries and in cycles of four
years. -/
theorem daysBeforeYear_eq {n400 n100 n4 n1 : Nat} (h100 : n100 ≤ 3) (h4 : n4 ≤ 24) (h1 : n1 ≤ 3) :
    daysBeforeYear (n400 * 400 + n100 * 100 + n4 * 4 + n1 + 1) =
      n400 * 146097 + n100 * 36524 + n4 * 1461 + n1 * 365 := by
  unfold daysBeforeYear
  dsimp only
  omega

private theorem isLeap_iff (year : Nat) :
    isLeap year = true ↔ year % 4 = 0 ∧ (year % 100 ≠ 0 ∨ year % 400 = 0) := by
  simp [isLeap]

theorem daysBeforeYear_succ {year : Nat} (pos : 1 ≤ year) :
    daysBeforeYear (year + 1) = daysBeforeYear year + if isLeap year then 366 else 365 := by
  obtain ⟨past, rfl⟩ : ∃ past, year = past + 1 := ⟨year - 1, by omega⟩
  have h4 := Nat.succ_div (a := past) (b := 4)
  have h100 := Nat.succ_div (a := past) (b := 100)
  have h400 := Nat.succ_div (a := past) (b := 400)
  have hle : past / 100 ≤ past / 4 := Nat.div_le_div_left (by decide) (by decide)
  simp only [isLeap_iff]
  simp only [daysBeforeYear, Nat.add_sub_cancel]
  rw [h4, h100, h400]
  clear h4 h100 h400
  simp only [Nat.dvd_iff_mod_eq_zero]
  split <;> split <;> split <;> split <;> omega

theorem daysBeforeYear_le {year later : Nat} (pos : 1 ≤ year) (h : year ≤ later) :
    daysBeforeYear year ≤ daysBeforeYear later := by
  induction h with
  | refl => exact Nat.le_refl _
  | step h ih =>
    rw [Nat.succ_eq_add_one, daysBeforeYear_succ (Nat.le_trans pos h)]
    exact Nat.le_trans ih (Nat.le_add_right ..)

/-- The days of a year end with it. -/
theorem ordinal_le {d : Date} (h : d.Valid) : d.ordinal ≤ daysBeforeYear (d.year + 1) := by
  have hmonths : ∀ leap, ∀ i < 12, ((monthLengths leap).take i).foldr (· + ·) 0 +
      (monthLengths leap).getD i 0 ≤ if leap then 366 else 365 := by decide
  obtain ⟨low, high⟩ : 1 ≤ d.month ∧ d.month ≤ 12 := ⟨h.month_pos, h.month_le⟩
  have hmonth := hmonths (isLeap d.year) (d.month - 1) (by omega)
  have hday : d.day ≤ (monthLengths (isLeap d.year)).getD (d.month - 1) 0 := h.day_le
  rw [ordinal, daysBeforeMonth, daysBeforeYear_succ h.year_pos]
  omega

private theorem valid_lastDay {year : Nat} (pos : 1 ≤ year) (le : year ≤ maxYear) :
    (⟨year, 12, 31⟩ : Date).Valid := by
  refine ⟨pos, le, (by decide : 1 ≤ 12), (by decide : 12 ≤ 12), (by decide : 1 ≤ 31), ?_⟩
  change 31 ≤ daysInMonth year 12
  rw [daysInMonth]
  cases isLeap year <;> decide

private theorem ordinal_lastDay {year : Nat} (leap : isLeap year = true) :
    (⟨year, 12, 31⟩ : Date).ordinal = daysBeforeYear year + 366 := by
  rw [ordinal, daysBeforeMonth, leap]
  rfl

/-- A day of a year by its index in the year. -/
private theorem dayOfYear_spec {year n month day : Nat} (pos : 1 ≤ year) (le : year ≤ maxYear)
    (h : n < 365) (hsplit : splitMonths (monthLengths (isLeap year)) n = (month, day)) :
    (⟨year, month + 1, day + 1⟩ : Date).Valid ∧
      (⟨year, month + 1, day + 1⟩ : Date).ordinal = daysBeforeYear year + n + 1 := by
  have hdays : n < (monthLengths (isLeap year)).foldr (· + ·) 0 := by
    rw [days_monthLengths]
    split <;> omega
  obtain ⟨hmonth, hday, hsum⟩ := splitMonths_spec (monthLengths (isLeap year)) n hdays
  rw [length_monthLengths] at hmonth
  rw [hsplit] at hmonth hday hsum
  refine ⟨⟨pos, le, Nat.succ_pos _, hmonth, Nat.succ_pos _, hday⟩, ?_⟩
  rw [ordinal, daysBeforeMonth, Nat.add_sub_cancel]
  dsimp only at hsum ⊢
  omega

/-- **The date of a count** is in the calendar and has this count. -/
theorem ofOrdinal_spec {n : Nat} (pos : 1 ≤ n) (le : n ≤ maxOrdinal) :
    (ofOrdinal n).Valid ∧ (ofOrdinal n).ordinal = n := by
  have hmax : n ≤ 3652059 := le
  unfold ofOrdinal
  dsimp only
  -- the index of the day, counted off in 400 years, centuries, four years and years
  have e400 := Nat.div_add_mod (n - 1) 146097
  have e100 := Nat.div_add_mod ((n - 1) % 146097) 36524
  have e4 := Nat.div_add_mod ((n - 1) % 146097 % 36524) 1461
  have e1 := Nat.div_add_mod ((n - 1) % 146097 % 36524 % 1461) 365
  have l400 := Nat.mod_lt (n - 1) (by decide : 0 < 146097)
  have l100 := Nat.mod_lt ((n - 1) % 146097) (by decide : 0 < 36524)
  have l4 := Nat.mod_lt ((n - 1) % 146097 % 36524) (by decide : 0 < 1461)
  have l1 := Nat.mod_lt ((n - 1) % 146097 % 36524 % 1461) (by decide : 0 < 365)
  generalize (n - 1) / 146097 = n400 at *
  generalize (n - 1) % 146097 = r at *
  generalize r / 36524 = n100 at *
  generalize r % 36524 = r100 at *
  generalize r100 / 1461 = n4 at *
  generalize r100 % 1461 = r4 at *
  generalize r4 / 365 = n1 at *
  generalize r4 % 365 = r1 at *
  have b4 : n4 ≤ 24 := by omega
  split
  · next last =>
    rw [Bool.or_eq_true, beq_iff_eq, beq_iff_eq] at last
    -- the last day of a leap year, which ends a cycle of four years or of 400
    obtain ⟨m100, m4, h100, h4, hyear, leap, count⟩ : ∃ m100 m4, m100 ≤ 3 ∧ m4 ≤ 24 ∧
        n400 * 400 + n100 * 100 + n4 * 4 + n1 = n400 * 400 + m100 * 100 + m4 * 4 + 3 + 1 ∧
        (m4 ≠ 24 ∨ m100 = 3) ∧
        n = n400 * 146097 + m100 * 36524 + m4 * 1461 + 3 * 365 + 366 := by
      rcases last with rfl | rfl
      · exact ⟨n100, n4, by omega, by omega, by omega, by omega, by omega⟩
      · exact ⟨3, 24, by omega, by omega, by omega, by omega, by omega⟩
    rw [Nat.add_sub_cancel, hyear]
    have hle : n400 * 400 + m100 * 100 + m4 * 4 + 3 + 1 ≤ maxYear := by
      have : maxYear = 9999 := rfl
      omega
    refine ⟨valid_lastDay (Nat.succ_pos _) hle, ?_⟩
    rw [ordinal_lastDay, daysBeforeYear_eq h100 h4 (Nat.le_refl 3), count]
    rw [isLeap_iff]
    omega
  · next inner =>
    rw [Bool.or_eq_true, beq_iff_eq, beq_iff_eq, not_or] at inner
    have hle : n400 * 400 + n100 * 100 + n4 * 4 + n1 + 1 ≤ maxYear := by
      have : maxYear = 9999 := rfl
      omega
    rcases hsplit : splitMonths
      (monthLengths (isLeap (n400 * 400 + n100 * 100 + n4 * 4 + n1 + 1))) r1 with ⟨month, day⟩
    obtain ⟨valid, hordinal⟩ := dayOfYear_spec (Nat.succ_pos _) hle l1 hsplit
    refine ⟨valid, hordinal.trans ?_⟩
    rw [daysBeforeYear_eq (by omega) b4 (by omega)]
    omega

end Date

namespace Moment

variable {m : Moment}

/-- The date on a clock is in the calendar, and its count is the number of days begun. -/
theorem date_spec (h : inRange m.wall) :
    m.date.Valid ∧ (m.date.ordinal : Int) = m.wall / Span.day + 1 := by
  rw [inRange, Bool.and_eq_true, decide_eq_true_eq, decide_eq_true_eq, span] at h
  have hday : Span.day = 86400000000 := rfl
  have hmax : (Date.maxOrdinal : Int) = 3652059 := rfl
  have hdiv : 0 ≤ m.wall / Span.day ∧ m.wall / Span.day < Date.maxOrdinal := by
    rw [hday] at h ⊢
    omega
  have hnat : ((m.wall / Span.day + 1).toNat : Int) = m.wall / Span.day + 1 :=
    Int.toNat_of_nonneg (by omega)
  have hle : (m.wall / Span.day + 1).toNat ≤ Date.maxOrdinal := by omega
  have hpos : 1 ≤ (m.wall / Span.day + 1).toNat := by omega
  obtain ⟨valid, hordinal⟩ := Date.ofOrdinal_spec hpos hle
  exact ⟨valid, (congrArg Nat.cast hordinal).trans hnat⟩

/-- The time on a clock by the date and the time of day. -/
theorem wall_eq (h : inRange m.wall) :
    (m.date.ordinal - 1 : Int) * Span.day + m.timeOfDay = m.wall := by
  rw [(date_spec h).2, Int.add_sub_cancel, timeOfDay, Int.mul_comm]
  exact Int.mul_ediv_add_emod m.wall Span.day

/-- The year on a clock is not over yet. -/
theorem wall_lt (h : inRange m.wall) :
    m.wall < (daysBeforeYear (m.date.year + 1) : Int) * Span.day := by
  obtain ⟨valid, hordinal⟩ := date_spec h
  have hle : (m.date.ordinal : Int) ≤ daysBeforeYear (m.date.year + 1) :=
    Int.ofNat_le.mpr (Date.ordinal_le valid)
  have hday : Span.day = 86400000000 := rfl
  rw [hday] at hordinal ⊢
  omega

theorem timeOfDay_lt (m : Moment) : 0 ≤ m.timeOfDay ∧ m.timeOfDay < Span.day :=
  ⟨Int.emod_nonneg _ (by decide), Int.emod_lt_of_pos _ (by decide)⟩

end Moment

end LogAlert
