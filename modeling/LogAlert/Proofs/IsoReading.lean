import LogAlert.Proofs.Digits
import LogAlert.Proofs.Gregorian
import LogAlert.Query.Canonical
import Mathlib.Data.List.TakeWhile

/-!
# Written moments are read back

The written forms of dates and moments are read back to the dates and moments that they were
written from.  Reading goes part by part: a part of two digits is taken, and the sign after it
tells what comes next.

## Main results

* `Iso.dateFields?_isoText`, `Iso.readDate?_isoText` : dates.
* `Iso.clock?_clockText` : times of day.
* `Iso.readMoment_isoChars` : moments.
* `Iso.readMoment_compact` : moments in the compact layout.
-/

namespace LogAlert.Iso

/-! ### Parts of fixed width -/

theorem exists_two {cs : List Char} (h : cs.length = 2) : ∃ a b, cs = [a, b] := by
  match cs with
  | [a, b] => exact ⟨a, b, rfl⟩

theorem exists_four {cs : List Char} (h : cs.length = 4) : ∃ a b c d, cs = [a, b, c, d] := by
  match cs with
  | [a, b, c, d] => exact ⟨a, b, c, d, rfl⟩

/-- A part of two digits is read back. -/
theorem padded_two {n : Nat} (h : n < 100) :
    ∃ a b, padded 2 n = [a, b] ∧ a.isDigit ∧ b.isDigit ∧
      ∀ rest, takeNumber? 2 (a :: b :: rest) = some (n, rest) := by
  obtain ⟨a, b, hp⟩ := exists_two (length_padded (by decide : 0 < 2) h)
  have digits (c : Char) (hc : c ∈ [a, b]) : c.isDigit := by
    rw [← hp] at hc
    exact isDigit_of_mem_padded hc
  refine ⟨a, b, hp, digits a (by simp), digits b (by simp), fun rest => ?_⟩
  have hread := takeNumber?_padded (by decide : 0 < 2) h rest
  rwa [hp] at hread

/-- A part of four digits is read back. -/
theorem padded_four {n : Nat} (h : n < 10000) :
    ∃ a b c d, padded 4 n = [a, b, c, d] ∧ (∀ x ∈ [a, b, c, d], x.isDigit) ∧
      ∀ rest, takeNumber? 4 (a :: b :: c :: d :: rest) = some (n, rest) := by
  obtain ⟨a, b, c, d, hp⟩ := exists_four (length_padded (by decide : 0 < 4) h)
  refine ⟨a, b, c, d, hp, fun x hx => ?_, fun rest => ?_⟩
  · rw [← hp] at hx
    exact isDigit_of_mem_padded hx
  · have hread := takeNumber?_padded (by decide : 0 < 4) h rest
    rwa [hp] at hread

/-! ### Dates -/

theorem day_lt {d : Date} (valid : d.Valid) : d.day < 100 := by
  have hlen : ∀ leap, ∀ i, (monthLengths leap).getD i 0 < 100 := by
    intro leap i
    rw [List.getD_eq_getElem?_getD]
    cases h : (monthLengths leap)[i]? with
    | none => decide
    | some n =>
      have hall : ∀ leap, ∀ n ∈ monthLengths leap, n < 100 := by decide
      exact hall leap n (List.mem_of_getElem? h)
  exact Nat.lt_of_le_of_lt valid.day_le (hlen _ _)

theorem month_lt {d : Date} (valid : d.Valid) : d.month < 100 :=
  Nat.lt_of_le_of_lt valid.month_le (by decide)

theorem year_lt {d : Date} (valid : d.Valid) : d.year < 10000 :=
  Nat.lt_of_le_of_lt valid.year_le (by decide)

theorem date_calendar {d : Date} (valid : d.Valid) :
    (DateFields.calendar d.year d.month d.day).date = .ok d := by
  rw [DateFields.date, Date.make_eq_ok valid]
  rfl

/-- A date with separators is read back, whatever follows. -/
theorem dateFields?_isoText {d : Date} (valid : d.Valid) (length : Nat) (rest : List Char) :
    dateFields? length (d.isoText ++ rest) = some (.calendar d.year d.month d.day) := by
  obtain ⟨y₁, y₂, y₃, y₄, hyear, -, readYear⟩ := padded_four (year_lt valid)
  obtain ⟨m₁, m₂, hmonth, digit, -, readMonth⟩ := padded_two (month_lt valid)
  obtain ⟨d₁, d₂, hday, -, -, readDay⟩ := padded_two (day_lt valid)
  rw [Date.isoText, hyear, hmonth, hday, dateFields?]
  simp only [List.cons_append, List.nil_append, readYear, Option.bind_eq_bind, Option.bind_some,
    List.head?_cons, if_true, List.drop_succ_cons, List.drop_zero]
  split
  · next digits =>
    -- no week begins with a digit
    exact absurd (List.cons.inj digits).1 (ne_of_isDigit digit (by decide))
  · simp only [readMonth, readDay, Option.bind_some, decide_true, Bool.not_true,
      Bool.false_eq_true, if_false, List.head?_cons, if_true, List.drop_succ_cons, List.drop_zero]

/-- A date without separators is read back, whatever follows. -/
theorem dateFields?_compact {d : Date} (valid : d.Valid) (length : Nat) (rest : List Char) :
    dateFields? length (padded 4 d.year ++ (padded 2 d.month ++ (padded 2 d.day ++ rest))) =
      some (.calendar d.year d.month d.day) := by
  obtain ⟨y₁, y₂, y₃, y₄, hyear, -, readYear⟩ := padded_four (year_lt valid)
  obtain ⟨m₁, m₂, hmonth, digit, -, readMonth⟩ := padded_two (month_lt valid)
  obtain ⟨d₁, d₂, hday, -, -, readDay⟩ := padded_two (day_lt valid)
  have dash : m₁ ≠ '-' := ne_of_isDigit digit (by decide)
  rw [hyear, hmonth, hday, dateFields?]
  simp only [List.cons_append, List.nil_append, readYear, Option.bind_eq_bind, Option.bind_some,
    List.head?_cons, Option.some.injEq, dash, if_false, decide_false]
  split
  · next digits =>
    exact absurd (List.cons.inj digits).1 (ne_of_isDigit digit (by decide))
  · simp only [readMonth, readDay, Option.bind_some, Bool.not_false, if_true]

theorem length_encode_ascii {cs : List Char} (h : ∀ c ∈ cs, c.toNat < 128) :
    (Text.Utf8.encode cs).length = cs.length := by
  induction cs with
  | nil => rfl
  | cons c cs ih =>
    have hone : (String.utf8EncodeChar c).length = 1 := by
      rw [String.length_utf8EncodeChar, Char.utf8Size_eq_one_iff, UInt32.le_iff_toNat_le]
      exact Nat.le_of_lt_succ (h c List.mem_cons_self)
    have ih' := ih fun d hd => h d (List.mem_cons_of_mem c hd)
    rw [Text.Utf8.encode] at ih' ⊢
    rw [List.flatMap_cons, List.length_append, hone, ih', List.length_cons, Nat.add_comm]

theorem isoText_ascii (d : Date) : ∀ c ∈ d.isoText, c.isDigit ∨ c = '-' := by
  intro c hc
  rw [Date.isoText, List.mem_append, List.mem_append, List.mem_cons, List.mem_cons] at hc
  rcases hc with (hc | hc | hc) | hc | hc
  · exact .inl (isDigit_of_mem_padded hc)
  · exact .inr hc
  · exact .inl (isDigit_of_mem_padded hc)
  · exact .inr hc
  · exact .inl (isDigit_of_mem_padded hc)

theorem lt_of_isDigit {c : Char} (h : c.isDigit) : c.toNat < 128 := by
  rw [Char.isDigit, Bool.and_eq_true, decide_eq_true_eq, decide_eq_true_eq] at h
  have hle : c.toNat ≤ 57 := UInt32.le_iff_toNat_le.mp h.2
  omega

theorem length_isoText {d : Date} (valid : d.Valid) : d.isoText.length = 10 := by
  obtain ⟨y₁, y₂, y₃, y₄, hyear, -, -⟩ := padded_four (year_lt valid)
  obtain ⟨m₁, m₂, hmonth, -, -, -⟩ := padded_two (month_lt valid)
  obtain ⟨d₁, d₂, hday, -, -, -⟩ := padded_two (day_lt valid)
  rw [Date.isoText, hyear, hmonth, hday]
  rfl

/-- **A written date is read back.** -/
theorem readDate?_isoText {d : Date} (valid : d.Valid) : readDate? d.isoText = some d := by
  have ascii (c : Char) (hc : c ∈ d.isoText) : c.toNat < 128 := by
    rcases isoText_ascii d c hc with h | rfl
    · exact lt_of_isDigit h
    · decide
  have hfields := dateFields?_isoText valid 10 []
  rw [List.append_nil] at hfields
  rw [readDate?, length_encode_ascii ascii, length_isoText valid]
  simp only [hfields, Option.bind_eq_bind, Option.bind_some, date_calendar valid]
  rfl

/-! ### Times of day -/

private theorem bind_parts (part : Nat) (parts : Option (List Nat × Nat × Bool)) :
    (do let (parts, micro, complete) ← parts; some (part :: parts, micro, complete)) =
      parts.map fun r => (part :: r.1, r.2) := by
  cases parts <;> rfl

section Clock

variable {n left : Nat} (h : n < 100)
include h

/-- A part at the end of a time. -/
theorem clockParts_last (colons : Bool) :
    clockParts colons (left + 1) (padded 2 n) = some ([n], 0, true) := by
  obtain ⟨a, b, hp, -, -, read⟩ := padded_two h
  rw [hp, clockParts, read]
  rfl

/-- A part before a colon. -/
theorem clockParts_colon {rest : List Char} (more : rest ≠ []) :
    clockParts true (left + 1) (padded 2 n ++ ':' :: rest) =
      (clockParts true left rest).map fun r => (n :: r.1, r.2) := by
  obtain ⟨a, b, hp, -, -, read⟩ := padded_two h
  obtain ⟨c, rest, rfl⟩ := List.exists_cons_of_ne_nil more
  rw [hp, clockParts, ← bind_parts]
  simp only [List.cons_append, List.nil_append, read, Option.bind_eq_bind, Option.bind_some]
  rfl

/-- A part before a fraction. -/
theorem clockParts_point {colons : Bool} {rest : List Char} (more : rest ≠ []) :
    clockParts colons (left + 1) (padded 2 n ++ '.' :: rest) =
      (fraction? rest).map fun r => ([n], r) := by
  obtain ⟨a, b, hp, -, -, read⟩ := padded_two h
  obtain ⟨c, rest, rfl⟩ := List.exists_cons_of_ne_nil more
  rw [hp, clockParts]
  simp only [List.cons_append, List.nil_append, read, Option.bind_eq_bind, Option.bind_some,
    clockParts]
  cases colons <;> cases fraction? (c :: rest) <;> rfl

/-- A part that another part follows without a colon. -/
theorem clockParts_digits {k : Nat} (hk : k < 100) (rest : List Char) :
    clockParts false (left + 1) (padded 2 n ++ (padded 2 k ++ rest)) =
      (clockParts false left (padded 2 k ++ rest)).map fun r => (n :: r.1, r.2) := by
  obtain ⟨a, b, hp, -, -, read⟩ := padded_two h
  obtain ⟨c, d, hp', digit, -, -⟩ := padded_two hk
  have point : (c == '.') = false := beq_false_of_ne (ne_of_isDigit digit (by decide))
  have comma : (c == ',') = false := beq_false_of_ne (ne_of_isDigit digit (by decide))
  rw [hp, hp', clockParts, ← bind_parts]
  simp only [List.cons_append, List.nil_append, read, Option.bind_eq_bind, Option.bind_some,
    List.isEmpty_cons, Bool.false_and, Bool.false_eq_true, if_false, point, comma, Bool.or_false]

end Clock

/-- A fraction of six digits. -/
theorem fraction?_padded {n : Nat} (h : n < 1000000) : fraction? (padded 6 n) = some (n, true) := by
  have hread := takeNumber?_padded (by decide : 0 < 6) h []
  rw [List.append_nil] at hread
  rw [fraction?, length_padded (by decide : 0 < 6) h]
  simp only [Nat.min_self, hread, Option.bind_eq_bind, Option.bind_some]
  rw [Nat.sub_self]
  exact congrArg (fun k => some (k, true)) (Nat.mul_one n)

theorem padded_ne_nil (width n : Nat) : padded width n ≠ [] := by
  rw [padded]
  exact List.append_ne_nil_of_right_ne_nil _ Nat.toDigits_ne_nil

/-- **A written time of day is read back.** -/
theorem clock?_clockText (always : Bool) {micros : Nat} (h : micros < 86400000000) :
    clock? (clockText always micros) =
      some ⟨micros / 1000000 / 3600, micros / 1000000 / 60 % 60, micros / 1000000 % 60,
        micros % 1000000, true⟩ := by
  have hhour : micros / 1000000 / 3600 < 100 := by omega
  have hminute : micros / 1000000 / 60 % 60 < 100 := by omega
  have hsecond : micros / 1000000 % 60 < 100 := by omega
  have hfraction : micros % 1000000 < 1000000 := Nat.mod_lt _ (by decide)
  unfold clockText
  dsimp only
  generalize micros / 1000000 / 3600 = hour at *
  generalize micros / 1000000 / 60 % 60 = minute at *
  generalize micros / 1000000 % 60 = second at *
  generalize micros % 1000000 = fraction at *
  have hcolons (rest : List Char) : ((padded 2 hour ++ ':' :: rest).drop 2).head? = some ':' := by
    rw [List.drop_left' (length_padded (by decide) hhour)]
    rfl
  have hread {rest : List Char} (parts : List Nat) {micro : Nat} (hrest : rest ≠ [])
      (hparts : clockParts true 2 rest = some (parts, micro, true)) :
      clock? (padded 2 hour ++ ':' :: rest) =
        some ⟨hour, parts.getD 0 0, parts.getD 1 0, micro, true⟩ := by
    rw [clock?, hcolons, decide_eq_true rfl, clockParts_colon hhour hrest, hparts]
    rfl
  by_cases whole : fraction = 0
  · subst whole
    by_cases shown : (always || second != 0 || (0 : Nat) != 0) = true
    · rw [if_pos shown, if_neg (by decide), List.append_nil, List.append_assoc, List.cons_append]
      refine hread [minute, second] (by simp [padded_ne_nil]) ?_
      rw [clockParts_colon hminute (padded_ne_nil 2 second), clockParts_last hsecond]
      rfl
    · have zero : second = 0 := by
        simp only [bne_self_eq_false, Bool.or_false, Bool.or_eq_true, bne_iff_ne, not_or,
          Decidable.not_not] at shown
        exact shown.2
      subst zero
      rw [if_neg shown, if_neg (by decide), List.append_nil, List.append_nil]
      exact hread [minute] (padded_ne_nil 2 minute) (clockParts_last hminute true)
  · have hbne : (fraction != 0) = true := bne_iff_ne.mpr whole
    rw [hbne, Bool.or_true, if_pos rfl, if_pos rfl, List.append_assoc, List.append_assoc,
      List.cons_append, List.cons_append]
    refine hread [minute, second] (by simp [padded_ne_nil]) ?_
    rw [clockParts_colon hminute (by simp [padded_ne_nil]),
      clockParts_point hsecond (padded_ne_nil 6 fraction), fraction?_padded hfraction]
    rfl

theorem clockText_chars (always : Bool) (micros : Nat) :
    ∀ c ∈ clockText always micros, c.isDigit ∨ c = ':' ∨ c = '.' := by
  intro c hc
  have hpart {b : Bool} {d : Char} {width n : Nat}
      (h : c ∈ if b then d :: padded width n else []) : c = d ∨ c.isDigit := by
    split at h
    · exact (List.mem_cons.mp h).imp_right isDigit_of_mem_padded
    · cases h
  rw [clockText, List.mem_append, List.mem_append, List.mem_append, List.mem_cons] at hc
  rcases hc with ((hc | hc | hc) | hc) | hc
  · exact .inl (isDigit_of_mem_padded hc)
  · exact .inr (.inl hc)
  · exact .inl (isDigit_of_mem_padded hc)
  · exact (hpart hc).symm.imp_right .inl
  · exact (hpart hc).symm.imp_right .inr

theorem startsOffset_of_isDigit {c : Char} (h : c.isDigit) : startsOffset c = false := by
  simp only [startsOffset, Bool.or_eq_false_iff, beq_eq_false_iff_ne]
  exact ⟨⟨ne_of_isDigit h (by decide), ne_of_isDigit h (by decide)⟩, ne_of_isDigit h (by decide)⟩

/-! ### Offsets -/

/-- An offset as it is read back from its written form: one of less than a second is read as
zero. -/
def keptOffset (o : Int) : Int :=
  if -Span.second < o ∧ o < Span.second then 0 else o

/-- A written offset of less than a day is read back, up to the part that is lost. -/
theorem offset_offsetText {o : Int} (small : -Span.day < o ∧ o < Span.day) :
    offset (offsetText o) = .ok (keptOffset o) := by
  have hsmall : -86400000000 < o ∧ o < 86400000000 := small
  have hlt : o.natAbs < 86400000000 := by omega
  rw [offsetText, offset, clock?_clockText false hlt]
  -- the parts of the written time make up the offset again
  have hparts : (((o.natAbs / 1000000 / 3600 : Nat) : Int) * 3600 +
      ((o.natAbs / 1000000 / 60 % 60 : Nat) : Int) * 60 + ((o.natAbs / 1000000 % 60 : Nat) : Int)) =
        ((o.natAbs / 1000000 : Nat) : Int) := by omega
  have hamount : ((o.natAbs / 1000000 : Nat) : Int) * 1000000 +
      ((o.natAbs % 1000000 : Nat) : Int) = o.natAbs := by omega
  have hsign : ((if o < 0 then '-' else '+') == 'Z') = false := by split <;> decide
  have hvalue :
      (if (if o < 0 then '-' else '+') == '-' then -(o.natAbs : Int) else o.natAbs) = o := by
    by_cases negative : o < 0
    · rw [if_pos negative, if_pos (beq_self_eq_true _)]
      omega
    · rw [if_neg negative, if_neg (by decide)]
      omega
  rw [hsign]
  simp only [Bool.false_eq_true, if_false, Bool.not_true]
  rw [hparts, show (Span.second : Int) = 1000000 from rfl, hamount, hvalue, keptOffset]
  by_cases near : -Span.second < o ∧ o < Span.second
  · have hnear : -1000000 < o ∧ o < 1000000 := near
    have zero : (((o.natAbs / 1000000 : Nat) : Int) == 0) = true := beq_iff_eq.mpr (by omega)
    rw [zero, if_pos rfl, if_pos near]
  · have hfar : ¬(-1000000 < o ∧ o < 1000000) := near
    have nonzero : (((o.natAbs / 1000000 : Nat) : Int) == 0) = false :=
      beq_eq_false_iff_ne.mpr (by omega)
    rw [nonzero, if_neg Bool.false_ne_true, if_neg near, if_pos]
    rw [Bool.and_eq_true, decide_eq_true_eq, decide_eq_true_eq]
    exact small

/-- A time with an offset. -/
theorem timeFields_append {time zone : List Char} {c : ClockFields} {o : Int}
    (plain : ∀ x ∈ time, startsOffset x = false) (clock : clock? time = some c)
    (sign : ∃ x xs, zone = x :: xs ∧ startsOffset x) (hzone : offset zone = .ok o) :
    timeFields (time ++ zone) = .ok (c, some o) := by
  obtain ⟨x, xs, rfl, hx⟩ := sign
  have hplain : ∀ x ∈ time, (!startsOffset x) = true := fun x hx => by rw [plain x hx]; rfl
  rw [timeFields, List.takeWhile_append_of_pos hplain, List.dropWhile_append_of_pos hplain,
    List.takeWhile_cons_of_neg (by simpa using hx), List.dropWhile_cons_of_neg (by simpa using hx),
    List.append_nil, clock]
  dsimp only
  rw [if_neg (by simp), hzone]
  rfl

/-- A time without an offset. -/
theorem timeFields_of_plain {time : List Char} {c : ClockFields}
    (plain : ∀ x ∈ time, startsOffset x = false) (clock : clock? time = some c)
    (complete : c.complete) : timeFields time = .ok (c, none) := by
  have hplain : ∀ x ∈ time, (!startsOffset x) = true := fun x hx => by rw [plain x hx]; rfl
  rw [timeFields, List.takeWhile_eq_self_iff.mpr hplain, List.dropWhile_eq_nil_iff.mpr hplain,
    clock]
  simp only [List.isEmpty_nil, if_true, complete]

/-! ### Moments -/

/-- Whether an offset is written in a form that is read back: less than a day, and none or at
least a second. -/
def Writable : Option Int → Prop
  | none => True
  | some o => (-Span.day < o ∧ o < Span.day) ∧ (o = 0 ∨ Span.second ≤ o ∨ o ≤ -Span.second)

theorem combine_eq {m : Moment} (range : Moment.inRange m.wall) {c : ClockFields}
    (hour : c.hour ≤ 23) (minute : c.minute ≤ 59) (second : c.second ≤ 59)
    (time : (c.hour * Span.hour + c.minute * Span.minute + c.second * Span.second + c.micro : Int) =
      m.timeOfDay) : combine m.date c m.offset = .ok m := by
  have hwall : (m.date.ordinal - 1 : Int) * Span.day + c.hour * Span.hour + c.minute * Span.minute +
      c.second * Span.second + c.micro = m.wall := by
    rw [← Moment.wall_eq range, ← time]
    ring
  rw [combine, if_neg (Nat.not_lt.mpr hour), if_neg (Nat.not_lt.mpr minute),
    if_neg (Nat.not_lt.mpr second), hwall]

/-- The time of day by its parts. -/
private theorem timeOfDay_parts (m : Moment) :
    m.timeOfDay.toNat / 1000000 / 3600 ≤ 23 ∧ m.timeOfDay.toNat / 1000000 / 60 % 60 ≤ 59 ∧
      m.timeOfDay.toNat / 1000000 % 60 ≤ 59 ∧
      (((m.timeOfDay.toNat / 1000000 / 3600 : Nat) : Int) * Span.hour +
        ((m.timeOfDay.toNat / 1000000 / 60 % 60 : Nat) : Int) * Span.minute +
        ((m.timeOfDay.toNat / 1000000 % 60 : Nat) : Int) * Span.second +
        ((m.timeOfDay.toNat % 1000000 : Nat) : Int)) = m.timeOfDay := by
  obtain ⟨pos, lt⟩ := m.timeOfDay_lt
  have hlt : m.timeOfDay < 86400000000 := lt
  have hhour : (Span.hour : Int) = 3600000000 := rfl
  have hminute : (Span.minute : Int) = 60000000 := rfl
  have hsecond : (Span.second : Int) = 1000000 := rfl
  rw [hhour, hminute, hsecond]
  refine ⟨by omega, by omega, by omega, by omega⟩

/-- A date with separators and a time. -/
private theorem readMoment_append {d : Date} (valid : d.Valid) {time : List Char} {c : ClockFields}
    {o : Option Int} (htime : timeFields time = .ok (c, o)) :
    readMoment (d.isoText ++ 'T' :: time) = combine d c o := by
  have hlength : dateLength? (d.isoText ++ 'T' :: time) = some 10 := by
    obtain ⟨y₁, y₂, y₃, y₄, hyear, -, -⟩ := padded_four (year_lt valid)
    obtain ⟨m₁, m₂, hmonth, digit, -, -⟩ := padded_two (month_lt valid)
    obtain ⟨d₁, d₂, hday, -, -, -⟩ := padded_two (day_lt valid)
    have week : (m₁ == 'W') = false := beq_false_of_ne (ne_of_isDigit digit (by decide))
    rw [Date.isoText, hyear, hmonth, hday, dateLength?]
    simp [week]
  have hdrop : (d.isoText ++ 'T' :: time).drop 10 = 'T' :: time :=
    List.drop_left' (length_isoText valid)
  rw [readMoment, hlength]
  dsimp only
  rw [dateFields?_isoText valid]
  dsimp only
  rw [readMoment.finish, hdrop, List.drop_succ_cons, List.drop_zero, htime, date_calendar valid]
  rfl

/-- **A written moment is read back** with the offset that its written form keeps. -/
theorem readMoment_isoChars {m : Moment} (range : Moment.inRange m.wall)
    (small : ∀ o, m.offset = some o → -Span.day < o ∧ o < Span.day) :
    readMoment m.isoChars = .ok { m with offset := m.offset.map keptOffset } := by
  have valid := (Moment.date_spec range).1
  obtain ⟨hour, minute, second, time⟩ := timeOfDay_parts m
  have hlt : m.timeOfDay.toNat < 86400000000 := by
    have hday : m.timeOfDay < 86400000000 := m.timeOfDay_lt.2
    omega
  have hclock := clock?_clockText true hlt
  have plain : ∀ c ∈ clockText true m.timeOfDay.toNat, startsOffset c = false := by
    intro c hc
    rcases clockText_chars true _ c hc with h | rfl | rfl
    · exact startsOffset_of_isDigit h
    · decide
    · decide
  have combined (o : Option Int) : combine m.date
      ⟨m.timeOfDay.toNat / 1000000 / 3600, m.timeOfDay.toNat / 1000000 / 60 % 60,
        m.timeOfDay.toNat / 1000000 % 60, m.timeOfDay.toNat % 1000000, true⟩ o =
        .ok { m with offset := o } :=
    combine_eq (m := { m with offset := o }) range hour minute second time
  rw [Moment.isoChars, List.append_assoc, List.cons_append]
  cases hoffset : m.offset with
  | none =>
    rw [List.append_nil, readMoment_append valid (timeFields_of_plain plain hclock rfl)]
    exact combined none
  | some o =>
    have sign : ∃ x xs, offsetText o = x :: xs ∧ startsOffset x := by
      refine ⟨_, _, rfl, ?_⟩
      split <;> decide
    have hzone := offset_offsetText (small o hoffset)
    dsimp only
    rw [readMoment_append valid (timeFields_append plain hclock sign hzone)]
    exact combined (some (keptOffset o))

/-- An offset that is written in a form that is read back is kept. -/
theorem map_keptOffset {offset : Option Int} (h : Writable offset) :
    offset.map keptOffset = offset := by
  cases offset with
  | none => rfl
  | some o =>
    rw [Option.map_some, keptOffset]
    split
    · next near =>
      rcases h.2 with rfl | above | below
      · rfl
      · exact absurd above (Int.not_le.mpr near.2)
      · exact absurd below (Int.not_le.mpr near.1)
    · rfl

/-! ### The compact layout -/

/-- A time of day without separators. -/
theorem clock?_compact {hour minute second : Nat} (hhour : hour < 100) (hminute : minute < 100)
    (hsecond : second < 100) :
    clock? (padded 2 hour ++ (padded 2 minute ++ padded 2 second)) =
      some ⟨hour, minute, second, 0, true⟩ := by
  have hcolons : ((padded 2 hour ++ (padded 2 minute ++ padded 2 second)).drop 2).head? ≠
      some ':' := by
    obtain ⟨a, b, hp, digit, -, -⟩ := padded_two hminute
    rw [List.drop_left' (length_padded (by decide) hhour), hp]
    intro h
    exact ne_of_isDigit digit (by decide) (Option.some.inj h)
  have hlast : clockParts false 2 (padded 2 minute ++ padded 2 second) =
      some ([minute, second], 0, true) := by
    have h : clockParts false (1 + 1) (padded 2 minute ++ (padded 2 second ++ [])) = _ :=
      clockParts_digits hminute hsecond []
    rw [List.append_nil] at h
    rw [h, clockParts_last hsecond]
    rfl
  rw [clock?, decide_eq_false hcolons, clockParts_digits hhour hminute, hlast]
  rfl

/-- A date without separators and a time. -/
private theorem readMoment_append_compact {d : Date} (valid : d.Valid) {time : List Char}
    {c : ClockFields} {o : Option Int} (htime : timeFields time = .ok (c, o)) :
    readMoment (padded 4 d.year ++ (padded 2 d.month ++ (padded 2 d.day ++ 'T' :: time))) =
      combine d c o := by
  have hlength : dateLength?
      (padded 4 d.year ++ (padded 2 d.month ++ (padded 2 d.day ++ 'T' :: time))) = some 8 := by
    obtain ⟨y₁, y₂, y₃, y₄, hyear, -, -⟩ := padded_four (year_lt valid)
    obtain ⟨m₁, m₂, hmonth, digit, -, -⟩ := padded_two (month_lt valid)
    obtain ⟨d₁, d₂, hday, -, -, -⟩ := padded_two (day_lt valid)
    have dash : (m₁ == '-') = false := beq_false_of_ne (ne_of_isDigit digit (by decide))
    have week : (m₁ == 'W') = false := beq_false_of_ne (ne_of_isDigit digit (by decide))
    rw [hyear, hmonth, hday, dateLength?]
    simp [dash, week]
  have hdrop : (padded 4 d.year ++ (padded 2 d.month ++ (padded 2 d.day ++ 'T' :: time))).drop 8 =
      'T' :: time := by
    rw [← List.append_assoc, ← List.append_assoc]
    refine List.drop_left' ?_
    rw [List.length_append, List.length_append, length_padded (by decide) (year_lt valid),
      length_padded (by decide) (month_lt valid), length_padded (by decide) (day_lt valid)]
  rw [readMoment, hlength]
  dsimp only
  rw [dateFields?_compact valid]
  dsimp only
  rw [readMoment.finish, hdrop, List.drop_succ_cons, List.drop_zero, htime, date_calendar valid]
  rfl

/-- **A moment in UTC in the compact layout is read back** if it has no fraction of a second. -/
theorem readMoment_compact {m : Moment} (range : Moment.inRange m.wall) (utc : m.offset = some 0)
    (whole : m.wall % Span.second = 0) :
    readMoment (padded 4 m.date.year ++ (padded 2 m.date.month ++ (padded 2 m.date.day ++ 'T' ::
      ((padded 2 ((m.timeOfDay / Span.second).toNat / 3600) ++
        (padded 2 ((m.timeOfDay / Span.second).toNat / 60 % 60) ++
          padded 2 ((m.timeOfDay / Span.second).toNat % 60))) ++ "+00:00".toList)))) = .ok m := by
  have valid := (Moment.date_spec range).1
  obtain ⟨pos, lt⟩ := m.timeOfDay_lt
  have hlt : m.timeOfDay < 86400000000 := lt
  have hseconds : (m.timeOfDay / Span.second).toNat = m.timeOfDay.toNat / 1000000 := by
    have hsecond : (Span.second : Int) = 1000000 := rfl
    rw [hsecond]
    omega
  have hwhole : m.timeOfDay.toNat % 1000000 = 0 := by
    have hsecond : m.wall % 1000000 = 0 := whole
    have htime : m.timeOfDay = m.wall % 86400000000 := rfl
    omega
  obtain ⟨hour, minute, second, time⟩ := timeOfDay_parts m
  rw [hwhole] at time
  rw [hseconds]
  have hclock := clock?_compact (Nat.lt_of_le_of_lt hour (by decide : 23 < 100))
    (Nat.lt_of_le_of_lt minute (by decide : 59 < 100))
    (Nat.lt_of_le_of_lt second (by decide : 59 < 100))
  have plain : ∀ c ∈ padded 2 (m.timeOfDay.toNat / 1000000 / 3600) ++
      (padded 2 (m.timeOfDay.toNat / 1000000 / 60 % 60) ++
        padded 2 (m.timeOfDay.toNat / 1000000 % 60)), startsOffset c = false := by
    intro c hc
    rw [List.mem_append, List.mem_append] at hc
    rcases hc with hc | hc | hc
    · exact startsOffset_of_isDigit (isDigit_of_mem_padded hc)
    · exact startsOffset_of_isDigit (isDigit_of_mem_padded hc)
    · exact startsOffset_of_isDigit (isDigit_of_mem_padded hc)
  have hzone : offset "+00:00".toList = .ok 0 := by decide +kernel
  have htime : timeFields (_ ++ "+00:00".toList) = .ok (_, some 0) :=
    timeFields_append plain hclock ⟨'+', "00:00".toList, rfl, by decide⟩ hzone
  rw [readMoment_append_compact valid htime, ← utc]
  exact combine_eq range hour minute second time

end LogAlert.Iso
