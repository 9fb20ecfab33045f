import LogAlert.Proofs.CanonicalForm
import LogAlert.Proofs.LayoutReading

/-!
# Which moments of a query survive

The query text of a moment leaves out the fraction of a second, and in the compact layout the zeros
in front of the year.  The text of a moment in an early year is no ISO moment; of the known layouts
only the compact one can fit it, and this takes the month for digits of the year.  So a moment is
read back as the same instant only if it is restorable.

## Main results

* `Instant.readAbsolute?_early` : a text with fewer than eight digits before the time is read as a
  moment of the year 1000 or later, if at all.
* `Query.reads_iff` : a moment's text is read as the same instant if and only if it is restorable.
* `Query.instants_survive_iff` : the moments of a query, written and read again.
-/

namespace LogAlert

namespace Iso

theorem takeNumber?_short {count : Nat} {digits : List Char} (h : digits.length < count)
    (rest : List Char) : takeNumber? count (digits ++ 'T' :: rest) = none := by
  have hmem : 'T' ∈ (digits ++ 'T' :: rest).take count := by
    rw [List.take_append, List.mem_append]
    right
    obtain ⟨k, hk⟩ := Nat.exists_eq_add_of_lt h
    rw [show count - digits.length = k + 1 by omega, List.take_succ_cons]
    exact List.mem_cons_self
  rw [takeNumber?, if_neg]
  rw [Bool.and_eq_true, List.all_eq_true]
  exact fun fits => Bool.false_ne_true (fits.2 'T' hmem)

/-- Fewer than eight digits and the letter T are no date. -/
theorem dateFields?_short {digits : List Char} (hdigits : ∀ c ∈ digits, c.isDigit)
    (low : 5 ≤ digits.length) (high : digits.length < 8) (length : Nat) (rest : List Char) :
    dateFields? length (digits ++ 'T' :: rest) = none := by
  obtain ⟨year, more, rfl, hyear⟩ : ∃ year more, digits = year ++ more ∧ year.length = 4 :=
    ⟨digits.take 4, digits.drop 4, (List.take_append_drop ..).symm, by rw [List.length_take]; omega⟩
  rw [List.length_append] at low high
  obtain ⟨e, tail, rfl⟩ := List.exists_cons_of_length_pos (l := more) (by omega)
  have hmonth : ∀ c ∈ e :: tail, c.isDigit := fun c hc => hdigits c (List.mem_append_right _ hc)
  have hfirst := hmonth e List.mem_cons_self
  have hdash : ((e :: (tail ++ 'T' :: rest)).head? = some '-') = False :=
    eq_false fun heq => ne_of_isDigit hfirst (by decide) (Option.some.inj heq)
  have hweek : e ≠ 'W' := ne_of_isDigit hfirst (by decide)
  rw [dateFields?, List.append_assoc,
    takeNumber?_append hyear fun c hc => hdigits c (List.mem_append_left _ hc)]
  simp only [Option.bind_eq_bind, Option.bind_some, List.cons_append, hdash, decide_false,
    if_false, Bool.not_false, if_true]
  split
  · next heq => exact absurd (List.cons.inj heq).1 hweek
  · cases tail with
    | nil =>
      rw [← List.cons_append, takeNumber?_short (by simp)]
      rfl
    | cons f tail =>
      -- at most one digit is left for the day
      have hday : takeNumber? 2 (tail ++ 'T' :: rest) = none :=
        takeNumber?_short (by simp only [List.length_cons] at high; omega) rest
      have hpair : ∀ c ∈ [e, f], c.isDigit := fun c hc =>
        hmonth c (List.mem_append_left tail hc)
      change ((takeNumber? 2 ([e, f] ++ (tail ++ 'T' :: rest))).bind _) = none
      rw [takeNumber?_append (show [e, f].length = 2 from rfl) hpair, Option.bind_some, hday]
      rfl

theorem readMoment_of_fields {cs : List Char} (h : ∀ length, dateFields? length cs = none) :
    (readMoment cs).toOption = none := by
  rw [readMoment]
  split
  · rfl
  · rw [h]
    rfl

theorem readDate?_of_fields {cs : List Char} (h : ∀ length, dateFields? length cs = none) :
    readDate? cs = none := by
  rw [readDate?]
  split
  · rw [h]
    rfl
  · rfl

end Iso

namespace Instant

variable {digits clock : List Char}

theorem readIso?_early (hdigits : ∀ c ∈ digits, c.isDigit) (low : 5 ≤ digits.length)
    (high : digits.length < 8) : readIso? (digits ++ 'T' :: (clock ++ ['Z'])) = none := by
  have hzone : unfoldZone (digits ++ 'T' :: (clock ++ ['Z'])) =
      digits ++ 'T' :: (clock ++ "+00:00".toList) := by
    have hsplit : digits ++ 'T' :: (clock ++ ['Z']) = (digits ++ 'T' :: clock) ++ ['Z'] := by
      rw [List.append_assoc, List.cons_append]
    rw [hsplit, unfoldZone, List.getLast?_concat, List.dropLast_concat, if_pos (by decide),
      List.append_assoc, List.cons_append]
  have hfields := Iso.dateFields?_short hdigits low high
  rw [readIso?, Iso.readDate?_of_fields fun length => hfields length _]
  dsimp only
  rw [hzone, Iso.readMoment_of_fields fun length => hfields length _]
  rfl

/-- Four digits of which the first is not zero. -/
theorem thousand_le_number {a b c d : Char} (hdigits : ∀ e ∈ [a, b, c, d], e.isDigit)
    (lead : a ≠ '0') : 1000 ≤ Layout.number [a, b, c, d] := by
  have hlow : 49 ≤ a.toNat := by
    obtain ⟨low, -⟩ := Text.isDigit_bounds (hdigits a List.mem_cons_self)
    have hne : a.toNat ≠ 48 := fun heq => lead (Char.toNat_inj.mp heq)
    omega
  have hzero : '0'.toNat = 48 := rfl
  rw [Layout.number, digitsValue_eq hdigits]
  simp only [Nat.ofDigitChars_cons, Nat.ofDigitChars_nil, hzero]
  omega

/-- **Fewer than eight digits before the time** are read as a date of the year 1000 or later, if
they do not begin with a zero. -/
theorem readAbsolute?_early (hdigits : ∀ c ∈ digits, c.isDigit) (low : 5 ≤ digits.length)
    (high : digits.length < 8) (lead : digits.head? ≠ some '0') (hclock : ∀ c ∈ clock, c.isDigit)
    {m : Moment} (h : readAbsolute? (digits ++ 'T' :: (clock ++ ['Z'])) = some m) :
    (daysBeforeYear 1000 : Int) * Span.day ≤ m.instant := by
  rw [readAbsolute?, readIso?_early hdigits low high] at h
  obtain ⟨read, hfirst, rfl⟩ := Option.map_eq_some_iff.mp h
  obtain ⟨layout, known, hread⟩ := List.exists_of_findSome?_eq_some hfirst
  have chars : ∀ c ∈ digits ++ 'T' :: (clock ++ ['Z']), c.isDigit ∨ c = 'T' ∨ c = 'Z' := by
    intro c hc
    simp only [List.mem_append, List.mem_cons, List.not_mem_nil, or_false] at hc
    rcases hc with hc | rfl | hc | rfl
    · exact .inl (hdigits c hc)
    · exact .inr (.inl rfl)
    · exact .inl (hclock c hc)
    · exact .inr (.inr rfl)
  obtain rfl := Layout.eq_compact_of_read? known chars (by simp) hread
  obtain ⟨hoffset, hwall⟩ := Layout.read?_yearFirst (by decide) (by decide) hread
  have hyear : 1000 ≤ Layout.number ((digits ++ 'T' :: (clock ++ ['Z'])).take 4) := by
    obtain ⟨a, b, c, d, hfour⟩ := Iso.exists_four
      (show (digits.take 4).length = 4 by rw [List.length_take]; omega)
    rw [List.take_append_of_le_length (by omega), hfour]
    refine thousand_le_number (fun e he => ?_) fun ha => lead ?_
    · rw [← hfour] at he
      exact hdigits e (List.mem_of_mem_take he)
    · rw [← ha, ← List.take_append_drop 4 digits, hfour]
      rfl
  have hinstant : read.assumeUtc.instant = read.wall := by
    obtain ⟨wall, offset⟩ := read
    obtain rfl : offset = none := hoffset
    exact Int.sub_zero wall
  rw [hinstant]
  refine Int.le_trans ?_ hwall
  exact Int.mul_le_mul_of_nonneg_right
    (Int.ofNat_le.mpr (Date.daysBeforeYear_le (by decide) hyear)) (by decide)

end Instant

namespace Query

variable {m utc : Moment} {text : List Char}

/-! ### Texts of moments -/

/-- The date of the compact layout, in which a year is not padded. -/
def looseDate (utc : Moment) : List Char :=
  Nat.toDigits 10 utc.date.year ++ (padded 2 utc.date.month ++ padded 2 utc.date.day)

/-- The time of the compact layout. -/
def clockDigits (utc : Moment) : List Char :=
  let seconds := (utc.timeOfDay / Span.second).toNat
  padded 2 (seconds / 3600) ++ (padded 2 (seconds / 60 % 60) ++ padded 2 (seconds % 60))

theorem isDigit_of_mem_looseDate {c : Char} (h : c ∈ looseDate utc) : c.isDigit := by
  rw [looseDate, List.mem_append, List.mem_append] at h
  rcases h with h | h | h
  · exact Nat.isDigit_of_mem_toDigits (by decide) (by decide) h
  · exact isDigit_of_mem_padded h
  · exact isDigit_of_mem_padded h

theorem isDigit_of_mem_clockDigits {c : Char} (h : c ∈ clockDigits utc) : c.isDigit := by
  simp only [clockDigits, List.mem_append] at h
  rcases h with h | h | h
  · exact isDigit_of_mem_padded h
  · exact isDigit_of_mem_padded h
  · exact isDigit_of_mem_padded h

theorem instantText_eq (hto : Instant.toUtc m = .ok utc) (h : instantText m = .ok text) :
    text = if utc.timeOfDay = 0 then utc.date.isoText
      else looseDate utc ++ 'T' :: (clockDigits utc ++ ['Z']) := by
  rw [instantText_of_toUtc hto] at h
  by_cases midnight : utc.timeOfDay = 0
  · rw [if_pos (beq_iff_eq.mpr midnight)] at h
    rw [if_pos midnight, Except.ok.inj h]
  · rw [if_neg (mt beq_iff_eq.mp midnight)] at h
    rw [if_neg midnight, ← Except.ok.inj h]
    simp only [looseDate, clockDigits, List.append_assoc, List.cons_append]

/-- A moment's text begins with a digit and is bare. -/
theorem instantText_chars (hto : Instant.toUtc m = .ok utc) (h : instantText m = .ok text) :
    (∃ c cs, text = c :: cs ∧ c.isDigit) ∧ ∀ c ∈ text, Lexeme.isBare c := by
  rw [instantText_eq hto h]
  split
  · refine ⟨?_, fun c hc => ?_⟩
    · obtain ⟨c, cs, hyear⟩ := List.exists_cons_of_ne_nil (Iso.padded_ne_nil 4 utc.date.year)
      have hmem : c ∈ padded 4 utc.date.year := by
        rw [hyear]
        exact List.mem_cons_self
      exact ⟨c, _, by rw [Date.isoText, hyear]; rfl, isDigit_of_mem_padded hmem⟩
    · rcases Iso.isoText_ascii _ c hc with digit | rfl
      · exact Lexeme.isBare_of_isDigit digit
      · decide
  · refine ⟨?_, fun c hc => ?_⟩
    · obtain ⟨c, cs, hyear, hdigits⟩ := toDigits_cons utc.date.year
      exact ⟨c, _, by rw [looseDate, hyear]; rfl, hdigits c List.mem_cons_self⟩
    · simp only [List.mem_append, List.mem_cons, List.not_mem_nil, or_false] at hc
      rcases hc with hc | rfl | hc | rfl
      · exact Lexeme.isBare_of_isDigit (isDigit_of_mem_looseDate hc)
      · decide
      · exact Lexeme.isBare_of_isDigit (isDigit_of_mem_clockDigits hc)
      · decide

/-- From the year 1000 on the text in the compact layout is that of the whole second. -/
theorem looseText_late (range : Moment.inRange utc.wall) (late : 1000 ≤ utc.date.year) :
    looseDate utc ++ 'T' :: (clockDigits utc ++ ['Z']) = compactText utc.wholeSecond := by
  have hdate : utc.wholeSecond.date = utc.date := by
    have hday : (utc.wall - utc.wall % Span.second) / Span.day = utc.wall / Span.day := by
      simp only [show Span.second = 1000000 from rfl, show Span.day = 86400000000 from rfl]
      omega
    rw [Moment.date, Moment.wholeSecond, hday, Moment.date]
  have htime : utc.wholeSecond.timeOfDay / Span.second = utc.timeOfDay / Span.second := by
    simp only [Moment.timeOfDay, Moment.wholeSecond, show Span.second = 1000000 from rfl,
      show Span.day = 86400000000 from rfl]
    omega
  rw [compactText, hdate, htime, ← toDigits_year late (Iso.year_lt (Moment.date_spec range).1)]
  simp only [looseDate, clockDigits, List.append_assoc]

/-! ### Reading a moment's text -/

theorem readAbsolute?_late (range : Moment.inRange utc.wall) (zone : utc.offset = some 0)
    (late : 1000 ≤ utc.date.year) : Instant.readAbsolute?
      (looseDate utc ++ 'T' :: (clockDigits utc ++ ['Z'])) = some utc.wholeSecond := by
  have hsecond : Span.second = 1000000 := rfl
  have hrange : Moment.inRange utc.wholeSecond.wall := by
    rw [Moment.inRange, Bool.and_eq_true, decide_eq_true_eq, decide_eq_true_eq] at range ⊢
    rw [Moment.wholeSecond, hsecond]
    dsimp only
    omega
  have hwhole : utc.wholeSecond.wall % Span.second = 0 := by
    rw [Moment.wholeSecond, hsecond]
    dsimp only
    omega
  have reads : InstantReads utc.wholeSecond (compactText utc.wholeSecond) :=
    instantReads_compact hrange zone hwhole
  rw [looseText_late range late, reads.reads]

theorem lt_of_readAbsolute?_early (range : Moment.inRange utc.wall) (early : utc.date.year < 1000)
    {read : Moment} (h : Instant.readAbsolute?
      (looseDate utc ++ 'T' :: (clockDigits utc ++ ['Z'])) = some read) :
    utc.wall < read.instant := by
  have valid := (Moment.date_spec range).1
  have hyear : (Nat.toDigits 10 utc.date.year).length ≤ 3 :=
    (Nat.length_toDigits_le_iff (by decide) (by decide)).mpr early
  obtain ⟨c, ds, hcons, -⟩ := toDigits_cons utc.date.year
  have hlength : (looseDate utc).length = (Nat.toDigits 10 utc.date.year).length + 4 := by
    rw [looseDate, List.length_append, List.length_append,
      length_padded (by decide) (Iso.month_lt valid), length_padded (by decide) (Iso.day_lt valid)]
  have hlead : (looseDate utc).head? ≠ some '0' := by
    have hhead := head?_toDigits valid.year_pos
    rw [hcons] at hhead
    rwa [looseDate, hcons]
  rw [hcons, List.length_cons] at hlength hyear
  have hread := Instant.readAbsolute?_early (fun c => isDigit_of_mem_looseDate) (by omega)
    (by omega) hlead (fun c => isDigit_of_mem_clockDigits) h
  have hlater := Date.daysBeforeYear_le (Nat.succ_pos _) (Nat.succ_le_of_lt early)
  calc utc.wall
      < (daysBeforeYear (utc.date.year + 1) : Int) * Span.day := Moment.wall_lt range
    _ ≤ (daysBeforeYear 1000 : Int) * Span.day :=
        Int.mul_le_mul_of_nonneg_right (Int.ofNat_le.mpr hlater) (by decide)
    _ ≤ read.instant := hread

theorem toUtc_spec (aware : m.isAware) (h : Instant.toUtc m = .ok utc) :
    m.toUtc? = some utc ∧ Moment.inRange utc.wall ∧ utc.offset = some 0 ∧
      utc.wall = m.instant := by
  rw [Instant.toUtc, if_pos aware] at h
  split at h
  · next converted hconverted =>
    obtain rfl := Except.ok.inj h
    obtain ⟨range, hutc⟩ := Option.ite_none_right_eq_some.mp hconverted
    obtain rfl := Option.some.inj hutc
    exact ⟨hconverted, range, rfl, rfl⟩
  · cases h

theorem restorable_iff (h : m.toUtc? = some utc) : m.Restorable ↔
    utc.wall % Span.second = 0 ∧ (1000 ≤ utc.date.year ∨ utc.timeOfDay = 0) := by
  refine ⟨?_, fun whole => ⟨utc, h, whole⟩⟩
  rintro ⟨converted, hconverted, whole⟩
  rw [h] at hconverted
  obtain rfl := Option.some.inj hconverted
  exact whole

/-- **A moment's text is read as the same instant** if and only if the moment is restorable. -/
theorem reads_iff (aware : m.isAware) (hto : Instant.toUtc m = .ok utc)
    (h : instantText m = .ok text) :
    (∃ read, Instant.readAbsolute? text = some read ∧ read.instant = m.instant) ↔
      m.Restorable := by
  obtain ⟨hutc, range, zone, hinstant⟩ := toUtc_spec aware hto
  have hself {read : Moment} (hzone : read.offset = some 0) : read.instant = read.wall := by
    rw [Moment.instant, hzone]
    exact Int.sub_zero _
  rw [restorable_iff hutc, instantText_eq hto h]
  by_cases midnight : utc.timeOfDay = 0
  · rw [if_pos midnight]
    refine ⟨fun _ => ⟨?_, .inr midnight⟩, fun _ => ?_⟩
    · rw [Moment.timeOfDay, show Span.day = 86400000000 from rfl] at midnight
      rw [show Span.second = 1000000 from rfl]
      omega
    · exact ⟨utc, (instantReads_date range zone midnight).reads, (hself zone).trans hinstant⟩
  rw [if_neg midnight]
  by_cases late : 1000 ≤ utc.date.year
  · rw [readAbsolute?_late range zone late]
    have hwhole : utc.wholeSecond.instant = utc.wall - utc.wall % Span.second := hself zone
    constructor
    · rintro ⟨read, hread, hsame⟩
      obtain rfl := Option.some.inj hread
      rw [hwhole, ← hinstant] at hsame
      exact ⟨by omega, .inl late⟩
    · rintro ⟨whole, -⟩
      exact ⟨_, rfl, by rw [hwhole, whole, hinstant, Int.sub_zero]⟩
  · refine iff_of_false ?_ (by simp [late, midnight])
    rintro ⟨read, hread, hsame⟩
    have hlt := lt_of_readAbsolute?_early range (Nat.not_le.mp late) hread
    omega

/-! ### Tokens -/

variable {now : Moment} {excluded : Bool} {op : Operator}

theorem instantText_ok_iff (aware : m.isAware) :
    (∃ text, instantText m = .ok text) ↔ m.toUtc?.isSome := by
  constructor
  · rintro ⟨text, h⟩
    cases hto : Instant.toUtc m with
    | error e =>
      rw [instantText, hto] at h
      cases h
    | ok utc => rw [(toUtc_spec aware hto).1, Option.isSome_some]
  · intro h
    obtain ⟨utc, hutc⟩ := Option.isSome_iff_exists.mp h
    have hto : Instant.toUtc m = .ok utc := by rw [Instant.toUtc, if_pos aware, hutc]
    rw [instantText_of_toUtc hto]
    split
    · exact ⟨_, rfl⟩
    · exact ⟨_, rfl⟩

theorem renderFilter_ok_iff {f : Filter} (sound : f.Sound excluded) :
    (∃ text, renderFilter f = .ok text) ↔ ∀ op m, f = .timestamp op m → m.toUtc?.isSome := by
  cases sound with
  | @timestamp op m aware =>
    have written : (∃ text, renderFilter (.timestamp op m) = .ok text) ↔
        ∃ text, instantText m = .ok text := by
      rw [renderFilter]
      cases instantText m with
      | error e => exact iff_of_false (by rintro ⟨_, ⟨⟩⟩) (by rintro ⟨_, ⟨⟩⟩)
      | ok written => exact iff_of_true ⟨_, rfl⟩ ⟨_, rfl⟩
    rw [written, instantText_ok_iff aware]
    refine ⟨fun h op' m' heq => ?_, fun h => h _ _ rfl⟩
    cases heq
    exact h
  | word | colon | phrase | metadata | level | source =>
    exact iff_of_true ⟨_, rfl⟩ (by rintro op m ⟨⟩)

theorem renderAll_ok_iff {tokens : List Token} (sound : ∀ t ∈ tokens, t.Sound) :
    (∃ texts, renderAll tokens = .ok texts) ↔
      ∀ t ∈ tokens, ∀ op m, t.filter = .timestamp op m → m.toUtc?.isSome := by
  induction tokens with
  | nil => exact iff_of_true ⟨[], rfl⟩ (List.forall_mem_nil _)
  | cons t tokens ih =>
    obtain ⟨ht, htokens⟩ := List.forall_mem_cons.mp sound
    rw [List.forall_mem_cons, ← ih htokens, ← renderFilter_ok_iff ht, renderAll, render]
    cases renderFilter t.filter with
    | error e => exact iff_of_false (by rintro ⟨_, ⟨⟩⟩) (by rintro ⟨⟨_, ⟨⟩⟩, _⟩)
    | ok text =>
      cases renderAll tokens with
      | error e => exact iff_of_false (by rintro ⟨_, ⟨⟩⟩) (by rintro ⟨_, _, ⟨⟩⟩)
      | ok texts => exact iff_of_true ⟨_, rfl⟩ ⟨⟨_, rfl⟩, ⟨_, rfl⟩⟩

/-- Tokens are written as a query if and only if the moments that they compare with are in the
calendar in UTC. -/
theorem toQuery_ok_iff {tokens : List Token} (sound : ∀ t ∈ tokens, t.Sound) :
    (∃ text, toQuery tokens = .ok text) ↔
      ∀ t ∈ tokens, ∀ op m, t.filter = .timestamp op m → m.toUtc?.isSome := by
  rw [← renderAll_ok_iff sound, toQuery]
  cases renderAll tokens with
  | error e => exact iff_of_false (by rintro ⟨_, ⟨⟩⟩) (by rintro ⟨_, ⟨⟩⟩)
  | ok texts => exact iff_of_true ⟨_, rfl⟩ ⟨_, rfl⟩

theorem toQuery_single {t : Token} (h : render t = .ok text) : toQuery [t] = .ok text := by
  rw [toQuery, renderAll, h]
  rfl

theorem parse_single {s : Lexeme.Shape} {token : Option Token} (spelled : s.Spelled text)
    (h : classify text now = .ok token) : parse text now = .ok token.toList := by
  have htokens : Lexeme.tokenize text = [text] :=
    Lexeme.tokenize_join (List.forall_mem_singleton.mpr (show (⟨s, text⟩ : Lexeme).shape.Spelled _
      from spelled))
  rw [parse, htokens, classifyAll, h]
  exact congrArg Except.ok (List.append_nil _)

/-- What is read from the text of one comparison with a moment. -/
theorem timestamp_spec (excluded : Bool) (op : Operator) (hto : Instant.toUtc m = .ok utc)
    (h : instantText m = .ok text) : ∃ query, toQuery [⟨excluded, .timestamp op m⟩] = .ok query ∧
      ∀ later, parse query later = .ok
        ((Instant.readAbsolute? text).map fun read => ⟨excluded, .timestamp op read⟩).toList := by
  obtain ⟨⟨c, cs, rfl, digit⟩, bare⟩ := instantText_chars hto h
  obtain ⟨body, rfl, hhead, ⟨b, spelled⟩, hread⟩ := timestampText_spec op digit bare
  obtain ⟨hspelled, hclassify⟩ := lexeme_of_body (.inr hhead : excluded ∨ _) spelled
  refine ⟨_, toQuery_single (render_of_filter (renderFilter_timestamp h)), fun later => ?_⟩
  rw [parse_single hspelled (hclassify later _ (hread later)), Option.map_map]
  rfl

theorem same_timestamp_iff {read : Moment} (aware : m.isAware) (h : read.isAware) :
    Token.same ⟨excluded, .timestamp op read⟩ ⟨excluded, .timestamp op m⟩ ↔
      read.instant = m.instant := by
  simp [Token.same, Filter.same, Moment.same, Moment.comparable, aware, h]

/-- **A comparison with a moment survives** if and only if the moment is restorable. -/
theorem timestamp_survives_iff (aware : m.isAware) (later : Moment) :
    (∃ text again, toQuery [⟨excluded, .timestamp op m⟩] = .ok text ∧
      parse text later = .ok [again] ∧ again.same ⟨excluded, .timestamp op m⟩) ↔ m.Restorable := by
  have sound : ∀ t ∈ [(⟨excluded, .timestamp op m⟩ : Token)], t.Sound :=
    List.forall_mem_singleton.mpr (Filter.Sound.timestamp aware)
  have converted (h : m.toUtc?.isSome) : ∃ utc text, Instant.toUtc m = .ok utc ∧
      instantText m = .ok text := by
    obtain ⟨text, htext⟩ := (instantText_ok_iff aware).mpr h
    obtain ⟨utc, hutc⟩ := Option.isSome_iff_exists.mp h
    exact ⟨utc, text, by rw [Instant.toUtc, if_pos aware, hutc], htext⟩
  constructor
  · rintro ⟨query, again, hquery, hparse, hsame⟩
    obtain ⟨utc, text, hto, htext⟩ := converted
      ((toQuery_ok_iff sound).mp ⟨query, hquery⟩ _ List.mem_cons_self op m rfl)
    obtain ⟨query', hquery', hread⟩ := timestamp_spec excluded op hto htext
    obtain rfl := Except.ok.inj (hquery.symm.trans hquery')
    have hagain := Except.ok.inj ((hread later).symm.trans hparse)
    cases h : Instant.readAbsolute? text with
    | none =>
      rw [h] at hagain
      cases hagain
    | some read =>
      rw [h] at hagain
      obtain rfl := (List.cons.inj hagain).1
      exact (reads_iff aware hto htext).mp
        ⟨read, h, (same_timestamp_iff aware (Instant.readAbsolute?_aware h)).mp hsame⟩
  · intro restorable
    obtain ⟨utc, text, hto, htext⟩ := converted (by
      obtain ⟨utc, hutc, -⟩ := restorable
      rw [hutc, Option.isSome_some])
    obtain ⟨read, hread, hinstant⟩ := (reads_iff aware hto htext).mpr restorable
    obtain ⟨query, hquery, hparse⟩ := timestamp_spec excluded op hto htext
    refine ⟨query, ⟨excluded, .timestamp op read⟩, hquery, ?_,
      (same_timestamp_iff aware (Instant.readAbsolute?_aware hread)).mpr hinstant⟩
    rw [hparse, hread]
    rfl

/-- **Moments of a query.**  Reading a query at a current time does not fail.  Its tokens are
written as a query if and only if each moment that they compare with is in the calendar in UTC.
A comparison with a moment, written by itself and read again at any time, is the one token that it
was if and only if this moment is restorable: then also in whole seconds, and in the year 1000 or
later or a midnight. -/
theorem instants_survive_iff (hnow : now.Current) (query : List Char) (later : Moment) :
    ∃ tokens, parse query now = .ok tokens ∧
      ((∃ text, toQuery tokens = .ok text) ↔
        ∀ t ∈ tokens, ∀ op m, t.filter = .timestamp op m → m.toUtc?.isSome) ∧
      ∀ t ∈ tokens, ∀ op m, t.filter = .timestamp op m →
        ((∃ text again, toQuery [t] = .ok text ∧ parse text later = .ok [again] ∧ again.same t) ↔
          m.Restorable) := by
  obtain ⟨tokens, hparse, sound⟩ := parse_sound hnow query
  refine ⟨tokens, hparse, toQuery_ok_iff sound, fun t ht op m hfilter => ?_⟩
  obtain ⟨excluded, f⟩ := t
  obtain rfl : f = .timestamp op m := hfilter
  cases sound _ ht with
  | timestamp aware => exact timestamp_survives_iff aware later

namespace Sample

/-- Comparisons with a moment in whole seconds, with one that has a fraction, with one of an early
year and with one that is before the calendar in UTC. -/
def moments : List Char :=
  ("timestamp:<20240501T103000Z -timestamp:\"2024-05-01T10:30:00.5Z\" " ++
    "timestamp:\"0042-08-12T10:30:00Z\" timestamp:\"0001-01-01T00:00:00+05:00\"").toList

/-- The comparison with whole seconds. -/
def wholeToken : Token := ⟨false, .timestamp .lt ⟨63850156200000000, some 0⟩⟩

/-- The comparison with a fraction. -/
def fractionToken : Token := ⟨true, .timestamp .eq ⟨63850156200500000, some 0⟩⟩

/-- The comparison with a moment of the year 42. -/
def earlyToken : Token := ⟨false, .timestamp .eq ⟨1313145000000000, some 0⟩⟩

/-- The comparison with a moment whose clock is five hours ahead. -/
def outsideToken : Token := ⟨false, .timestamp .eq ⟨0, some 18000000000⟩⟩

/-- A current time. -/
theorem current : Moment.Current ⟨63888000000000000, some 0⟩ :=
  ⟨rfl, by decide, by decide⟩

theorem fraction_not_restorable : ¬(Moment.mk 63850156200500000 (some 0)).Restorable := by
  have hutc : (Moment.mk 63850156200500000 (some 0)).toUtc? =
      some ⟨63850156200500000, some 0⟩ := rfl
  rw [restorable_iff hutc]
  decide

end Sample

theorem instants_survive_of_sample :
    Moment.Current ⟨63888000000000000, some 0⟩ ∧
      parse Sample.moments ⟨63888000000000000, some 0⟩ = .ok [Sample.wholeToken,
        Sample.fractionToken, Sample.earlyToken, Sample.outsideToken] ∧
      (¬∃ text, toQuery [Sample.wholeToken, Sample.fractionToken, Sample.earlyToken,
        Sample.outsideToken] = .ok text) ∧
      (∃ text again, toQuery [Sample.wholeToken] = .ok text ∧
        parse text ⟨63888000000000000, some 0⟩ = .ok [again] ∧ again.same Sample.wholeToken) ∧
      (¬∃ text again, toQuery [Sample.fractionToken] = .ok text ∧
        parse text ⟨63888000000000000, some 0⟩ = .ok [again] ∧ again.same Sample.fractionToken) ∧
      ¬∃ text again, toQuery [Sample.earlyToken] = .ok text ∧
        parse text ⟨63888000000000000, some 0⟩ = .ok [again] ∧ again.same Sample.earlyToken := by
  obtain ⟨tokens, htokens, hquery, hsurvive⟩ := instants_survive_iff Sample.current Sample.moments
    ⟨63888000000000000, some 0⟩
  have hread : (parse Sample.moments ⟨63888000000000000, some 0⟩).toOption = some
      [Sample.wholeToken, Sample.fractionToken, Sample.earlyToken, Sample.outsideToken] := by
    decide +kernel
  rw [htokens] at hread
  obtain rfl := Option.some.inj hread
  have hwhole : (Moment.mk 63850156200000000 (some 0)).Restorable :=
    ⟨⟨63850156200000000, some 0⟩, by decide⟩
  have hearly : ¬(Moment.mk 1313145000000000 (some 0)).Restorable := by
    have hutc : (Moment.mk 1313145000000000 (some 0)).toUtc? =
        some ⟨1313145000000000, some 0⟩ := rfl
    rw [restorable_iff hutc]
    decide
  refine ⟨Sample.current, htokens, fun h => ?_, (hsurvive _ (by simp) _ _ rfl).mpr hwhole,
    mt (hsurvive _ (by simp) _ _ rfl).mp Sample.fraction_not_restorable,
    mt (hsurvive _ (by simp) _ _ rfl).mp hearly⟩
  have houtside := hquery.mp h Sample.outsideToken (by simp) _ _ rfl
  revert houtside
  decide

/-- **The fraction of a second is lost**: not every moment of a query survives. -/
theorem fraction_does_not_survive :
    ¬∀ (query : List Char) (now : Moment), now.Current →
      ∃ tokens text, parse query now = .ok tokens ∧ toQuery tokens = .ok text ∧
        ∀ t ∈ tokens, ∀ op m, t.filter = .timestamp op m → ∃ text again,
          toQuery [t] = .ok text ∧ parse text now = .ok [again] ∧ again.same t := by
  intro claim
  obtain ⟨tokens, -, htokens, -, hsurvive⟩ :=
    claim "-timestamp:\"2024-05-01T10:30:00.5Z\"".toList _ Sample.current
  have hread : (parse "-timestamp:\"2024-05-01T10:30:00.5Z\"".toList
      ⟨63888000000000000, some 0⟩).toOption = some [Sample.fractionToken] := by
    decide +kernel
  rw [htokens] at hread
  obtain rfl := Option.some.inj hread
  exact Sample.fraction_not_restorable ((timestamp_survives_iff rfl _).mp
    (hsurvive Sample.fractionToken List.mem_cons_self _ _ rfl))

end Query

end LogAlert
