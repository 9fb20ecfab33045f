import LogAlert.Proofs.Answering
import LogAlert.Proofs.CanonicalForm
import LogAlert.Proofs.Complements

/-!
# Queries for a day

A query for a date selects the records of this day in UTC: those whose day begins with the midnight
of the date.  Every moment of the calendar of UTC is in exactly one day, and every day but the last
one has a midnight at its end.

## Main definitions

* `Date.HasNext` : the dates of the calendar that are not its last day.
* `Moment.HasTomorrow` : the moments that are in the calendar of UTC before its last day.
* `Query.dayQuery` : the query for a date.

## Main results

* `Date.ordinal_injective` : the count of a day determines its date.
* `Instant.startOfDay_eq` : the day of a moment begins with the midnight of its date in UTC.
* `Query.parse_dayQuery`, `Match.timeMatches_midnight` : what a query for a date asks, and which
  times answer it.
* `Query.one_day_selects` : a record is selected by the query for its day, and by no other.
-/

namespace LogAlert

/-! ### Dates -/

namespace Date

variable {d e : Date}

theorem daysBeforeYear_lt_ordinal (h : d.Valid) : daysBeforeYear d.year < d.ordinal := by
  have hday := h.day_pos
  rw [ordinal]
  omega

theorem year_le_of_ordinal_le (hd : d.Valid) (he : e.Valid) (h : d.ordinal ≤ e.ordinal) :
    d.year ≤ e.year := by
  refine Nat.le_of_not_lt fun later => ?_
  -- the year of `e` is over before the first day of the year of `d`
  have hyears : daysBeforeYear (e.year + 1) ≤ daysBeforeYear d.year :=
    daysBeforeYear_le (Nat.succ_pos e.year) later
  have hfirst := daysBeforeYear_lt_ordinal hd
  have hlast := ordinal_le he
  omega

/-- Within a year a later month begins after the end of an earlier one. -/
theorem month_le_of_ordinal_le (hd : d.Valid) (he : e.Valid) (same : d.year = e.year)
    (h : d.ordinal ≤ e.ordinal) : d.month ≤ e.month := by
  refine Nat.le_of_not_lt fun later => ?_
  have months : ∀ leap, ∀ i < 12, ∀ j < i,
      ((monthLengths leap).take j).foldr (· + ·) 0 + (monthLengths leap).getD j 0 ≤
        ((monthLengths leap).take i).foldr (· + ·) 0 := by
    decide
  have hmonth := months (isLeap e.year) (d.month - 1) (by have := hd.month_le; omega)
    (e.month - 1) (by have := he.month_pos; omega)
  have hday : e.day ≤ (monthLengths (isLeap e.year)).getD (e.month - 1) 0 := he.day_le
  have hpos := hd.day_pos
  rw [ordinal, ordinal, daysBeforeMonth, daysBeforeMonth, same] at h
  omega

/-- **The count of a day determines its date.** -/
theorem ordinal_injective (hd : d.Valid) (he : e.Valid) (h : d.ordinal = e.ordinal) : d = e := by
  have hyear : d.year = e.year := Nat.le_antisymm
    (year_le_of_ordinal_le hd he (Nat.le_of_eq h))
    (year_le_of_ordinal_le he hd (Nat.le_of_eq h.symm))
  have hmonth : d.month = e.month := Nat.le_antisymm
    (month_le_of_ordinal_le hd he hyear (Nat.le_of_eq h))
    (month_le_of_ordinal_le he hd hyear.symm (Nat.le_of_eq h.symm))
  have hday : d.day = e.day := by
    rw [ordinal, ordinal, hyear, hmonth] at h
    omega
  obtain ⟨year, month, day⟩ := d
  subst hyear hmonth hday
  rfl

/-- A date of the calendar that is not its last day. -/
structure HasNext (d : Date) : Prop extends d.Valid where
  not_last : d ≠ ⟨9999, 12, 31⟩

theorem valid_last : (⟨9999, 12, 31⟩ : Date).Valid :=
  ⟨by decide, by decide, by decide, by decide, by decide, by decide⟩

theorem ordinal_last : (⟨9999, 12, 31⟩ : Date).ordinal = maxOrdinal := by
  decide

theorem ordinal_le_max (h : d.Valid) : d.ordinal ≤ maxOrdinal :=
  calc d.ordinal
      ≤ daysBeforeYear (d.year + 1) := ordinal_le h
    _ ≤ daysBeforeYear (maxYear + 1) :=
        daysBeforeYear_le (Nat.succ_pos _) (Nat.succ_le_succ h.year_le)
    _ = maxOrdinal := by decide

theorem HasNext.ordinal_lt (h : d.HasNext) : d.ordinal < maxOrdinal :=
  Nat.lt_of_le_of_ne (ordinal_le_max h.toValid) fun last =>
    h.not_last (ordinal_injective h.toValid valid_last (last.trans ordinal_last.symm))

end Date

/-! ### Days -/

open LogAlert.Span (day)

namespace Moment

variable {d e : Date} {m utc : Moment}

theorem assumeUtc_of_aware (aware : m.isAware) : m.assumeUtc = m := by
  rw [assumeUtc, if_pos aware]

theorem instant_utc (wall : Int) : instant ⟨wall, some 0⟩ = wall :=
  Int.sub_zero wall

theorem toUtc?_eq_some_iff :
    m.toUtc? = some utc ↔ inRange m.instant ∧ utc = ⟨m.instant, some 0⟩ := by
  rw [toUtc?, Option.ite_none_right_eq_some, Option.some.injEq, eq_comm (a := utc)]

/-- Whether a moment is in the calendar of UTC before its last day.  A moment without an offset
counts as UTC. -/
def HasTomorrow (m : Moment) : Prop :=
  ∃ utc, m.assumeUtc.toUtc? = some utc ∧ utc.wall < (midnight ⟨9999, 12, 31⟩).wall

/-! #### Midnights -/

theorem wall_midnight (d : Date) : (midnight d).wall = (d.ordinal - 1 : Int) * day := rfl

theorem instant_midnight (d : Date) : (midnight d).instant = (midnight d).wall :=
  instant_utc _

theorem inRange_midnight (h : d.Valid) : inRange (midnight d).wall := by
  have hpos := Date.daysBeforeYear_lt_ordinal h
  have hle : (d.ordinal : Int) ≤ Date.maxOrdinal := Int.ofNat_le.mpr (Date.ordinal_le_max h)
  rw [inRange, Bool.and_eq_true, decide_eq_true_eq, decide_eq_true_eq, span, wall_midnight,
    show day = 86400000000 from rfl]
  omega

theorem toUtc?_midnight (h : d.Valid) : (midnight d).toUtc? = some (midnight d) := by
  have hinstant := instant_midnight d
  refine toUtc?_eq_some_iff.mpr ⟨?_, ?_⟩
  · rw [hinstant]
    exact inRange_midnight h
  · rw [hinstant]
    rfl

theorem midnight_injective (hd : d.Valid) (he : e.Valid) (h : midnight d = midnight e) : d = e := by
  have hwall : (d.ordinal - 1 : Int) * day = (e.ordinal - 1 : Int) * day := congrArg wall h
  have hcount := Int.eq_of_mul_eq_mul_right (by decide) hwall
  exact Date.ordinal_injective hd he (by omega)

/-- The day after a date that is not the last one begins in the calendar. -/
theorem shift?_midnight (h : d.HasNext) :
    (midnight d).shift? day = some ⟨(midnight d).wall + day, some 0⟩ := by
  have hpos := Date.daysBeforeYear_lt_ordinal h.toValid
  have hlt : (d.ordinal : Int) < Date.maxOrdinal := Int.ofNat_lt.mpr h.ordinal_lt
  have range : inRange ((midnight d).wall + day) := by
    rw [inRange, Bool.and_eq_true, decide_eq_true_eq, decide_eq_true_eq, span, wall_midnight,
      show day = 86400000000 from rfl]
    omega
  rw [shift?, if_pos range]
  rfl

/-- **A time on the clock is in exactly one day**, that of its date. -/
theorem date_eq_iff (range : inRange utc.wall) (h : d.Valid) :
    utc.date = d ↔ (midnight d).wall ≤ utc.wall ∧ utc.wall < (midnight d).wall + day := by
  obtain ⟨valid, hcount⟩ := date_spec range
  have hday : day = 86400000000 := rfl
  rw [wall_midnight, hday]
  rw [hday] at hcount
  constructor
  · rintro rfl
    rw [hcount]
    omega
  · rintro ⟨low, high⟩
    refine Date.ordinal_injective valid h ?_
    omega

/-- Before the last day of the calendar a date has a next one. -/
theorem hasNext_date (range : inRange utc.wall)
    (early : utc.wall < (midnight ⟨9999, 12, 31⟩).wall) : utc.date.HasNext where
  toValid := (date_spec range).1
  not_last last := Int.not_lt.mpr ((date_eq_iff range Date.valid_last).mp last).1 early

end Moment

namespace Instant

open Moment (midnight)

variable {m utc : Moment} {d : Date}

/-- **The day of a moment begins with the midnight of its date in UTC.** -/
theorem startOfDay_eq (aware : m.isAware) (h : m.toUtc? = some utc) :
    startOfDay m = .ok (midnight utc.date) := by
  obtain ⟨range, rfl⟩ := Moment.toUtc?_eq_some_iff.mp h
  have hwall := Moment.wall_eq (m := ⟨m.instant, some 0⟩) range
  have hto : toUtc m = .ok ⟨m.instant, some 0⟩ := by rw [toUtc, if_pos aware, h]
  rw [startOfDay, hto]
  refine congrArg Except.ok (congrArg (Moment.mk · (some 0)) ?_)
  dsimp only at hwall ⊢
  omega

/-- A day begins with its own beginning. -/
theorem startOfDay_midnight (h : d.Valid) : startOfDay (midnight d) = .ok (midnight d) := by
  have hdate : (midnight d).date = d :=
    (Moment.date_eq_iff (Moment.inRange_midnight h) h).mpr
      ⟨Int.le_refl _, Int.lt_add_of_pos_right _ (by decide)⟩
  rw [startOfDay_eq rfl (Moment.toUtc?_midnight h), hdate]

end Instant

/-! ### Queries -/

namespace Match

open Moment (midnight)

/-- A time equals a midnight if it is in the day that begins with it. -/
theorem timeMatches_midnight {d : Date} (h : d.HasNext) (time : Moment) :
    timeMatches time .eq (midnight d) =
      .ok (decide ((midnight d).wall ≤ time.instant ∧ time.instant < (midnight d).wall + day)) := by
  have aware := Instant.assumeUtc_aware time
  have hassume :
      timeMatches time .eq (midnight d) = timeMatches time.assumeUtc .eq (midnight d) := by
    rw [timeMatches, timeMatches, Moment.assumeUtc_of_aware aware]
  have htime : ((midnight d).timeOfDay == 0) = true :=
    beq_iff_eq.mpr (Int.mul_emod_left _ _)
  rw [hassume, timeMatches_eq aware rfl, Moment.toUtc?_midnight h.toValid]
  dsimp only
  rw [if_pos htime, Moment.shift?_midnight h, Moment.instant_midnight, Moment.instant_assumeUtc]
  dsimp only
  rw [Moment.instant_utc]
  by_cases reached : (midnight d).wall ≤ time.instant
  · simp only [reached, if_true, true_and]
  · simp only [reached, if_false, false_and, decide_false]

end Match

namespace Query

open Lexeme
open Moment (midnight)

variable {d : Date} {r : Record}

/-- The query for a date. -/
def dayQuery (d : Date) : List Char :=
  "timestamp:".toList ++ d.isoText

/-- The query for a date asks for equality with its midnight, at any time. -/
theorem parse_dayQuery (h : d.Valid) (now : Moment) :
    parse (dayQuery d) now = .ok [⟨false, .timestamp .eq (midnight d)⟩] := by
  have range := Moment.inRange_midnight h
  have hdate : (midnight d).date = d :=
    (Moment.date_eq_iff range h).mpr ⟨Int.le_refl _, Int.lt_add_of_pos_right _ (by decide)⟩
  have reads : InstantReads (midnight d) d.isoText := by
    have midnight := instantReads_date range rfl (Int.mul_emod_left _ _)
    rwa [hdate] at midnight
  obtain ⟨c, cs, htext, digit⟩ := reads.digit
  obtain ⟨text, rfl, plain, ⟨b, body⟩, hbody⟩ :=
    timestampText_spec .eq digit (htext ▸ reads.bare)
  rw [← htext] at plain body hbody
  have minus : ∀ rest, dayQuery d = '-' :: rest → Stops rest := fun rest heq =>
    absurd (congrArg List.head? heq) plain
  have hclassify := classify_plain plain (hbody now)
  rw [reads.reads] at hclassify
  exact parse_of_spelled (.plain body minus) hclassify

/-- Whether the query for a date selects a record. -/
def Selects (now : Moment) (d : Date) (r : Record) : Prop :=
  ∃ tokens, parse (dayQuery d) now = .ok tokens ∧ Token.holdAll tokens r = .ok true

/-- A record answers the query for a date if it is in the day that begins with its midnight. -/
theorem holdAll_midnight (h : d.HasNext) (r : Record) :
    Token.holdAll [⟨false, .timestamp .eq (midnight d)⟩] r =
      .ok (decide ((midnight d).wall ≤ r.timestamp.instant ∧
        r.timestamp.instant < (midnight d).wall + day)) := by
  have single (t : Token) : Token.holdAll [t] r = t.holds r := by
    rw [Token.holdAll, Token.holdAll]
    cases t.holds r with
    | error e => rfl
    | ok answer => cases answer <;> rfl
  rw [single, Token.holds, Filter.holds, Match.timeMatches_midnight h]
  exact congrArg Except.ok (Bool.bne_false _)

/-- **A query for a date selects the records of its day.**  A record that is in the calendar of UTC
before its last day is in the day that begins with some midnight: this is not after the record, the
record is before the end of 24 hours from it on, and it is the beginning of its own day.  The query
for a date, read at any time, selects the record exactly if the day begins with the midnight of the
date, and so exactly one date selects it. -/
theorem one_day_selects (h : r.timestamp.HasTomorrow) (now : Moment) :
    ∃ start stop, Instant.startOfDay r.timestamp.assumeUtc = .ok start ∧
      Instant.startOfDay start = .ok start ∧ start.shift? day = some stop ∧
      start.atMost? r.timestamp.assumeUtc = some true ∧
      r.timestamp.assumeUtc.before? stop = some true ∧
      (∀ d : Date, d.HasNext → ∃ tokens, parse (dayQuery d) now = .ok tokens ∧
        Token.holdAll tokens r = .ok (decide (start = midnight d))) ∧
      ∃! d : Date, d.HasNext ∧ Selects now d r := by
  obtain ⟨utc, hutc, early⟩ := h
  obtain ⟨range, hwall⟩ := Moment.toUtc?_eq_some_iff.mp hutc
  have aware := Instant.assumeUtc_aware r.timestamp
  rw [Moment.instant_assumeUtc] at range hwall
  have hinstant : r.timestamp.instant = utc.wall := (congrArg Moment.wall hwall).symm
  rw [hinstant] at range
  have next := Moment.hasNext_date range early
  obtain ⟨low, high⟩ := (Moment.date_eq_iff range next.toValid).mp rfl
  -- the days of two dates begin with two midnights, and the record is in one of them
  have answers (d : Date) (hd : d.HasNext) : ∃ tokens, parse (dayQuery d) now = .ok tokens ∧
      Token.holdAll tokens r = .ok (decide (midnight utc.date = midnight d)) := by
    refine ⟨_, parse_dayQuery hd.toValid now, ?_⟩
    rw [holdAll_midnight hd, hinstant]
    refine congrArg Except.ok (decide_eq_decide.mpr ?_)
    rw [← Moment.date_eq_iff range hd.toValid]
    exact ⟨congrArg midnight, Moment.midnight_injective next.toValid hd.toValid⟩
  refine ⟨midnight utc.date, _, Instant.startOfDay_eq aware hutc,
    Instant.startOfDay_midnight next.toValid, Moment.shift?_midnight next, ?_, ?_, answers, ?_⟩
  · rw [Moment.atMost?, Moment.comparable, aware, Moment.instant_midnight, Moment.instant_assumeUtc,
      hinstant, decide_eq_true low]
    rfl
  · rw [Moment.before?, Moment.comparable, aware, Moment.instant_utc, Moment.instant_assumeUtc,
      hinstant, decide_eq_true high]
    rfl
  · refine ⟨utc.date, ⟨next, ?_⟩, ?_⟩
    · obtain ⟨tokens, hparse, hholds⟩ := answers utc.date next
      exact ⟨tokens, hparse, by rw [hholds, decide_eq_true rfl]⟩
    · rintro d ⟨hd, tokens, hparse, selected⟩
      obtain ⟨tokens', hparse', hholds⟩ := answers d hd
      obtain rfl := Except.ok.inj (hparse.symm.trans hparse')
      have same := of_decide_eq_true (Except.ok.inj (hholds.symm.trans selected))
      exact (Moment.midnight_injective next.toValid hd.toValid same).symm

namespace Sample

/-- A record half an hour into 1 March of a leap year, by a clock that is an hour ahead of UTC. -/
def leapNight : Record :=
  { id := 1
    timestamp := ⟨(midnight ⟨2024, 3, 1⟩).wall + 30 * Span.minute, some Span.hour⟩
    level := "info"
    message := "backup"
    source := "cron"
    metadata := [] }

end Sample

/-- In UTC it is still 29 February. -/
theorem one_day_selects_of_leapNight :
    Sample.leapNight.timestamp.HasTomorrow ∧
      Instant.startOfDay Sample.leapNight.timestamp = .ok (midnight ⟨2024, 2, 29⟩) ∧
      Selects Sample.reading ⟨2024, 2, 29⟩ Sample.leapNight ∧
      (⟨2024, 3, 1⟩ : Date).HasNext ∧ ¬Selects Sample.reading ⟨2024, 3, 1⟩ Sample.leapNight := by
  have tomorrow : Sample.leapNight.timestamp.HasTomorrow :=
    ⟨⟨Sample.leapNight.timestamp.instant, some 0⟩, by decide, by decide⟩
  have february : (⟨2024, 2, 29⟩ : Date).HasNext :=
    ⟨⟨by decide, by decide, by decide, by decide, by decide, by decide⟩, by decide⟩
  have march : (⟨2024, 3, 1⟩ : Date).HasNext :=
    ⟨⟨by decide, by decide, by decide, by decide, by decide, by decide⟩, by decide⟩
  have begins : Instant.startOfDay Sample.leapNight.timestamp.assumeUtc =
      .ok (midnight ⟨2024, 2, 29⟩) := rfl
  obtain ⟨start, stop, hstart, -, -, -, -, answers, day, -, unique⟩ :=
    one_day_selects tomorrow Sample.reading
  obtain rfl := Except.ok.inj (begins.symm.trans hstart)
  obtain ⟨tokens, hparse, hholds⟩ := answers ⟨2024, 2, 29⟩ february
  have selected : Selects Sample.reading ⟨2024, 2, 29⟩ Sample.leapNight := ⟨tokens, hparse, hholds⟩
  refine ⟨tomorrow, begins, selected, march, fun other => ?_⟩
  have same := (unique _ ⟨february, selected⟩).trans (unique _ ⟨march, other⟩).symm
  cases same

end Query

end LogAlert
