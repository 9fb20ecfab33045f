import LogAlert.Proofs.Characters
import LogAlert.Proofs.IsoReading

/-!
# Moments in queries

A moment that a query names is written as a date or in the compact layout, and the text is read
back to the same instant at any current time.

## Main definitions

* `Moment.HasYesterday` : the times at which every query is read.
* `Moment.Current` : the same without the first year of the calendar.
* `Moment.Restorable` : the moments whose query text is read back.

## Main results

* `Instant.read_aware` : reading does not fail, and what it yields has an offset.
* `Query.instantText_spec` : the text of a moment is bare and is read back.
-/

namespace LogAlert

/-- A time on the clock of UTC whose day before is in the calendar. -/
structure Moment.HasYesterday (now : Moment) : Prop where
  utc : now.offset = some 0
  low : (Moment.midnight ⟨1, 1, 2⟩).wall ≤ now.wall
  high : now.wall < Moment.span

/-- A time on the clock of UTC in the years 2 to 9999. -/
structure Moment.Current (now : Moment) : Prop where
  utc : now.offset = some 0
  low : (Moment.midnight ⟨2, 1, 1⟩).wall ≤ now.wall
  high : now.wall < Moment.span

/-- Whether a moment's query text is read back: in UTC it is in the calendar, has whole seconds,
and is in the year 1000 or later or a midnight. -/
def Moment.Restorable (m : Moment) : Prop :=
  ∃ utc, m.toUtc? = some utc ∧ utc.wall % Span.second = 0 ∧
    (1000 ≤ utc.date.year ∨ utc.timeOfDay = 0)

namespace Moment

variable {now : Moment}

theorem HasYesterday.day_le (h : now.HasYesterday) : Span.day ≤ now.wall := by
  have hlow : (Moment.midnight ⟨1, 1, 2⟩).wall = Span.day := by decide
  rw [← hlow]
  exact h.low

theorem HasYesterday.isAware (h : now.HasYesterday) : now.isAware := by
  rw [Moment.isAware, h.utc]
  rfl

theorem HasYesterday.inRange (h : now.HasYesterday) : Moment.inRange now.wall := by
  rw [Moment.inRange, Bool.and_eq_true, decide_eq_true_eq, decide_eq_true_eq]
  exact ⟨Int.le_trans (by decide) h.day_le, h.high⟩

theorem Current.hasYesterday (h : now.Current) : now.HasYesterday where
  utc := h.utc
  low := Int.le_trans (by decide) h.low
  high := h.high

theorem Current.day_le (h : now.Current) : Span.day ≤ now.wall :=
  h.hasYesterday.day_le

theorem Current.isAware (h : now.Current) : now.isAware :=
  h.hasYesterday.isAware

theorem Current.inRange (h : now.Current) : Moment.inRange now.wall :=
  h.hasYesterday.inRange

theorem instant_assumeUtc (m : Moment) : m.assumeUtc.instant = m.instant := by
  obtain ⟨wall, offset⟩ := m
  cases offset <;> rfl

end Moment

namespace Instant

variable {now : Moment}

theorem toUtc_of_zero {m : Moment} (utc : m.offset = some 0) (range : Moment.inRange m.wall) :
    toUtc m = .ok m := by
  obtain ⟨wall, offset⟩ := m
  obtain rfl : offset = some 0 := utc
  have hinstant : Moment.instant ⟨wall, some 0⟩ = wall := Int.sub_zero wall
  rw [toUtc, Moment.isAware, Moment.toUtc?, hinstant, if_pos range]
  rfl

theorem startOfDay_of_zero {m : Moment} (utc : m.offset = some 0) (range : Moment.inRange m.wall) :
    ∃ start, startOfDay m = .ok start ∧ start.isAware := by
  rw [startOfDay, toUtc_of_zero utc range]
  refine ⟨_, rfl, ?_⟩
  rw [Moment.isAware, utc]
  rfl

theorem shift?_aware {m shifted : Moment} {amount : Int} (aware : m.isAware)
    (h : m.shift? amount = some shifted) : shifted.isAware := by
  rw [Moment.shift?] at h
  split at h
  · cases h
    exact aware
  · cases h

theorem assumeUtc_aware (m : Moment) : m.assumeUtc.isAware := by
  rw [Moment.assumeUtc]
  split
  · assumption
  · rfl

theorem readRelative?_aware {cs : List Char} {m : Moment} (aware : now.isAware)
    (h : readRelative? cs now = some m) : m.isAware := by
  unfold readRelative? at h
  split at h
  · rw [Option.bind_eq_bind, Option.bind_eq_some_iff] at h
    obtain ⟨letter, -, h⟩ := h
    rw [Option.bind_eq_bind, Option.bind_eq_some_iff] at h
    obtain ⟨unit, -, h⟩ := h
    split at h
    · cases h
    · exact shift?_aware aware h
  · cases h

theorem readAbsolute?_aware {cs : List Char} {m : Moment} (h : readAbsolute? cs = some m) :
    m.isAware := by
  rw [readAbsolute?] at h
  split at h
  · next iso hiso =>
    obtain rfl := Option.some.inj h
    rw [readIso?] at hiso
    split at hiso
    · obtain rfl := Option.some.inj hiso
      rfl
    · obtain ⟨read, -, rfl⟩ := Option.map_eq_some_iff.mp hiso
      exact assumeUtc_aware read
  · obtain ⟨read, -, rfl⟩ := Option.map_eq_some_iff.mp h
    exact assumeUtc_aware read

/-- Reading a moment does not fail if the day before is in the calendar, and the moment has an
offset. -/
theorem read_aware (hnow : now.HasYesterday) (value : List Char) :
    ∃ instant, read value now = .ok instant ∧ ∀ m ∈ instant, m.isAware := by
  have hutc : now.assumeUtc = now := by rw [Moment.assumeUtc, if_pos hnow.isAware]
  rw [read, hutc]
  split
  · exact ⟨none, rfl, fun m hm => nomatch hm⟩
  split
  · obtain ⟨start, hstart, haware⟩ := startOfDay_of_zero hnow.utc hnow.inRange
    rw [hstart]
    refine ⟨some start, rfl, fun m hm => ?_⟩
    obtain rfl := Option.some.inj hm
    exact haware
  split
  · -- the day before is still in the calendar
    have range : Moment.inRange (now.wall + -Span.day) := by
      have hday : Span.day = 86400000000 := rfl
      have hle : (86400000000 : Int) ≤ now.wall := hnow.day_le
      have hlt := hnow.high
      rw [Moment.inRange, Bool.and_eq_true, decide_eq_true_eq, decide_eq_true_eq, hday]
      omega
    have hpast : before now Span.day = .ok { now with wall := now.wall + -Span.day } := by
      rw [before, Moment.shift?, if_pos range]
    obtain ⟨start, hstart, haware⟩ :=
      startOfDay_of_zero (m := { now with wall := now.wall + -Span.day }) hnow.utc range
    rw [hpast]
    change ∃ instant, (startOfDay _).map some = .ok instant ∧ _
    rw [hstart]
    refine ⟨some start, rfl, fun m hm => ?_⟩
    obtain rfl := Option.some.inj hm
    exact haware
  split
  · exact ⟨_, rfl, fun m hm => readRelative?_aware hnow.isAware hm⟩
  · exact ⟨_, rfl, fun m hm => readAbsolute?_aware hm⟩

/-- A bare text that begins with a digit is read as a moment in itself. -/
theorem read_of_digit {c : Char} {cs : List Char} (digit : c.isDigit)
    (bare : ∀ d ∈ c :: cs, Lexeme.isBare d) :
    read (c :: cs) now = .ok (readAbsolute? (c :: cs)) := by
  have hhead : (Text.lower (c :: cs)).head? = some c := Text.head?_lower digit
  have hword {word : List Char} {d : Char} (hword : word.head? = some d) (hd : d.isDigit = false) :
      (Text.lower (c :: cs) == word) = false := by
    refine beq_false_of_ne fun h => ?_
    rw [h, hword] at hhead
    exact ne_of_isDigit digit hd (Option.some.inj hhead).symm
  have hminus : ¬(Text.lower (c :: cs)).head? = some '-' := by
    rw [hhead]
    exact fun h => ne_of_isDigit digit (by decide) (Option.some.inj h)
  rw [read, Text.strip_of_bare bare]
  rw [hword (show todayWord.head? = some 't' from rfl) (by decide),
    hword (show yesterdayWord.head? = some 'y' from rfl) (by decide), if_neg hminus]
  rfl

end Instant

namespace Query

/-- The text of a moment: bare, with a digit in front, and read as the moment it was written
from. -/
structure InstantReads (utc : Moment) (text : List Char) : Prop where
  digit : ∃ c cs, text = c :: cs ∧ c.isDigit
  bare : ∀ c ∈ text, Lexeme.isBare c
  reads : Instant.readAbsolute? text = some utc

/-- The date of a midnight is read back. -/
theorem instantReads_date {utc : Moment} (range : Moment.inRange utc.wall)
    (zone : utc.offset = some 0) (midnight : utc.timeOfDay = 0) :
    InstantReads utc utc.date.isoText where
  digit := by
    obtain ⟨a, b, c, d, hyear, digits, -⟩ :=
      Iso.padded_four (Iso.year_lt (Moment.date_spec range).1)
    exact ⟨a, _, by rw [Date.isoText, hyear]; rfl, digits a List.mem_cons_self⟩
  bare c hc := by
    rcases Iso.isoText_ascii _ c hc with h | rfl
    · exact Lexeme.isBare_of_isDigit h
    · decide
  reads := by
    have hwall := Moment.wall_eq range
    rw [midnight, Int.add_zero] at hwall
    rw [Instant.readAbsolute?, Instant.readIso?, Iso.readDate?_isoText (Moment.date_spec range).1]
    dsimp only
    rw [Moment.midnight, hwall, ← zone]

/-- The compact layout, in which a year has no leading zeros. -/
def compactText (utc : Moment) : List Char :=
  let seconds := (utc.timeOfDay / Span.second).toNat
  padded 4 utc.date.year ++ (padded 2 utc.date.month ++ (padded 2 utc.date.day ++ 'T' ::
    ((padded 2 (seconds / 3600) ++ (padded 2 (seconds / 60 % 60) ++ padded 2 (seconds % 60))) ++
      ['Z'])))

theorem compactText_chars (utc : Moment) :
    ∀ c ∈ compactText utc, c.isDigit ∨ c = 'T' ∨ c = 'Z' := by
  intro c hc
  simp only [compactText, List.mem_append, List.mem_cons, List.not_mem_nil, or_false] at hc
  rcases hc with hc | hc | hc | hc | (hc | hc | hc) | hc
  · exact .inl (isDigit_of_mem_padded hc)
  · exact .inl (isDigit_of_mem_padded hc)
  · exact .inl (isDigit_of_mem_padded hc)
  · exact .inr (.inl hc)
  · exact .inl (isDigit_of_mem_padded hc)
  · exact .inl (isDigit_of_mem_padded hc)
  · exact .inl (isDigit_of_mem_padded hc)
  · exact .inr (.inr hc)

theorem length_compactText {utc : Moment} (range : Moment.inRange utc.wall) :
    (compactText utc).length = 16 := by
  have valid := (Moment.date_spec range).1
  have hlt : utc.timeOfDay < 86400000000 := utc.timeOfDay_lt.2
  have hsecond : (Span.second : Int) = 1000000 := rfl
  have hhour : (utc.timeOfDay / Span.second).toNat / 3600 < 100 := by
    rw [hsecond]
    omega
  simp only [compactText, List.length_append, List.length_cons, List.length_nil]
  rw [length_padded (by decide) (Iso.year_lt valid), length_padded (by decide) (Iso.month_lt valid),
    length_padded (by decide) (Iso.day_lt valid), length_padded (by decide) hhour,
    length_padded (by decide) (by omega), length_padded (by decide) (by omega)]

/-- A moment in the compact layout is read back. -/
theorem instantReads_compact {utc : Moment} (range : Moment.inRange utc.wall)
    (zone : utc.offset = some 0) (whole : utc.wall % Span.second = 0) :
    InstantReads utc (compactText utc) where
  digit := by
    obtain ⟨a, b, c, d, hyear, digits, -⟩ :=
      Iso.padded_four (Iso.year_lt (Moment.date_spec range).1)
    exact ⟨a, _, by rw [compactText, hyear]; rfl, digits a List.mem_cons_self⟩
  bare c hc := by
    rcases compactText_chars utc c hc with h | rfl | rfl
    · exact Lexeme.isBare_of_isDigit h
    · decide
    · decide
  reads := by
    have ascii (c : Char) (hc : c ∈ compactText utc) : c.toNat < 128 := by
      rcases compactText_chars utc c hc with h | rfl | rfl
      · exact Iso.lt_of_isDigit h
      · decide
      · decide
    have hdate : Iso.readDate? (compactText utc) = none := by
      rw [Iso.readDate?, Iso.length_encode_ascii ascii, length_compactText range]
      rfl
    have hzone : Instant.unfoldZone (compactText utc) =
        padded 4 utc.date.year ++ (padded 2 utc.date.month ++ (padded 2 utc.date.day ++ 'T' ::
          ((padded 2 ((utc.timeOfDay / Span.second).toNat / 3600) ++
            (padded 2 ((utc.timeOfDay / Span.second).toNat / 60 % 60) ++
              padded 2 ((utc.timeOfDay / Span.second).toNat % 60))) ++ "+00:00".toList))) := by
      have hsplit : ∃ front, compactText utc = front ++ ['Z'] ∧
          front = padded 4 utc.date.year ++ (padded 2 utc.date.month ++ (padded 2 utc.date.day ++
            'T' :: (padded 2 ((utc.timeOfDay / Span.second).toNat / 3600) ++
              (padded 2 ((utc.timeOfDay / Span.second).toNat / 60 % 60) ++
                padded 2 ((utc.timeOfDay / Span.second).toNat % 60))))) := by
        refine ⟨_, ?_, rfl⟩
        simp only [compactText, List.append_assoc, List.cons_append]
      obtain ⟨front, htext, hfront⟩ := hsplit
      rw [htext, Instant.unfoldZone, List.getLast?_concat, List.dropLast_concat, hfront]
      simp only [decide_true, Bool.true_or, if_true, List.append_assoc, List.cons_append]
    rw [Instant.readAbsolute?, Instant.readIso?, hdate]
    dsimp only
    rw [hzone, Iso.readMoment_compact range zone whole]
    have hutc : utc.assumeUtc = utc := by
      rw [Moment.assumeUtc, if_pos]
      rw [Moment.isAware, zone]
      rfl
    rw [Except.toOption, Option.map_some, hutc]

theorem toDigits_year {year : Nat} (low : 1000 ≤ year) (high : year < 10000) :
    Nat.toDigits 10 year = padded 4 year := by
  refine toDigits_eq_padded year ?_
  have hle := (Nat.length_toDigits_le_iff (by decide : 1 < 10) (by decide : 0 < 4)).mpr high
  have hgt : ¬(Nat.toDigits 10 year).length ≤ 3 := by
    rw [Nat.length_toDigits_le_iff (by decide) (by decide)]
    omega
  omega

theorem instantText_of_toUtc {m utc : Moment} (h : Instant.toUtc m = .ok utc) :
    instantText m = if utc.timeOfDay == 0 then .ok utc.date.isoText else
      .ok (Nat.toDigits 10 utc.date.year ++ padded 2 utc.date.month ++ padded 2 utc.date.day ++
        'T' :: padded 2 ((utc.timeOfDay / Span.second).toNat / 3600) ++
          padded 2 ((utc.timeOfDay / Span.second).toNat / 60 % 60) ++
            padded 2 ((utc.timeOfDay / Span.second).toNat % 60) ++ ['Z']) := by
  rw [instantText, h]
  rfl

/-- A moment in UTC is written as a date or in the compact layout. -/
theorem instantText_utc {utc : Moment} (range : Moment.inRange utc.wall)
    (zone : utc.offset = some 0) (whole : utc.wall % Span.second = 0)
    (late : 1000 ≤ utc.date.year ∨ utc.timeOfDay = 0) :
    ∃ text, instantText utc = .ok text ∧ InstantReads utc text := by
  rw [instantText_of_toUtc (Instant.toUtc_of_zero zone range)]
  by_cases midnight : utc.timeOfDay = 0
  · rw [midnight, beq_self_eq_true, if_pos rfl]
    exact ⟨_, rfl, instantReads_date range zone midnight⟩
  · rw [beq_false_of_ne midnight, if_neg Bool.false_ne_true]
    refine ⟨_, rfl, ?_⟩
    have hyear := toDigits_year (late.resolve_right midnight)
      (Iso.year_lt (Moment.date_spec range).1)
    have hcompact := instantReads_compact range zone whole
    rw [compactText] at hcompact
    rw [hyear]
    simpa only [List.append_assoc, List.cons_append] using hcompact

/-- **The query text of a moment** is that of the same instant in UTC, and is read as it. -/
theorem instantText_spec {m : Moment} (aware : m.isAware) (h : m.Restorable) :
    ∃ utc text, instantText m = .ok text ∧ instantText utc = .ok text ∧ utc.isAware ∧
      utc.same m ∧ InstantReads utc text := by
  obtain ⟨utc, hutc, whole, late⟩ := h
  have hto : Instant.toUtc m = .ok utc := by rw [Instant.toUtc, if_pos aware, hutc]
  rw [Moment.toUtc?] at hutc
  split at hutc
  · next range =>
    obtain rfl := Option.some.inj hutc
    have hinstant : Moment.instant ⟨m.instant, some 0⟩ = m.instant := Int.sub_zero _
    have hsame : Moment.same ⟨m.instant, some 0⟩ m := by
      rw [Moment.same, Moment.comparable, aware, hinstant, beq_self_eq_true]
      rfl
    obtain ⟨text, htext, reads⟩ := instantText_utc range rfl whole late
    refine ⟨⟨m.instant, some 0⟩, text, ?_, htext, rfl, hsame, reads⟩
    rw [← htext, instantText_of_toUtc hto, instantText_of_toUtc (Instant.toUtc_of_zero rfl range)]
  · cases hutc

end Query

end LogAlert
