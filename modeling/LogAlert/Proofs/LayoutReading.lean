import LogAlert.Calendar.Layout
import LogAlert.Proofs.Characters
import LogAlert.Proofs.Digits
import LogAlert.Proofs.Gregorian
import Mathlib.Data.List.Forall2

/-!
# What a layout takes of a text

Each part of a layout takes some characters of a text, one part after the other, and every
character that it takes is one that it accepts.  A text without such a character does not fit the
layout.  The year of a moment that is read is the one that its part has taken.

## Main definitions

* `Layout.Part.accepts` : the characters that a part may take.

## Main results

* `Layout.takes_of_mem_starts`, `Layout.readParts?_takes` : what parts take.
* `Layout.exists_accepted`, `Layout.accepted_of_mem` : a text that fits has characters for each
  part, and no others.
* `Layout.read?_yearFirst` : a moment whose year is written first is not before this year.
* `Layout.eq_compact_of_read?` : digits with a T and a Z fit the compact layout only.
-/

namespace LogAlert.Layout

open Text (isBlank isDecimal digitValue?)

variable {p : Part} {ps : List Part} {f f' : Fields} {cs rest : List Char}

/-- The characters that a part may take.  Those of names and offsets are not told apart. -/
def Part.accepts : Part → Char → Bool
  | .year, c | .month, c | .day, c | .hour, c | .minute, c | .second, c => isDecimal c || c == ' '
  | .gap, c => isBlank c
  | .mark d, c => d.toLower == c.toLower
  | .monthShort, _ | .monthName, _ | .weekday, _ | .zone, _ => true

/-! ### Single parts -/

/-- The ten digits. -/
def digitChars : List Char := ['0', '1', '2', '3', '4', '5', '6', '7', '8', '9']

theorem mem_digitChars {c : Char} (h : c.isDigit) : c ∈ digitChars := by
  have hall : ∀ n < 10, Char.ofNat (48 + n) ∈ digitChars := by decide
  obtain ⟨low, high⟩ := Text.isDigit_bounds h
  have hmem := hall (c.toNat - 48) (by omega)
  rwa [Nat.add_sub_cancel' low, Char.ofNat_toNat] at hmem

theorem isDecimal_of_between {low high c : Char} (hlow : '0' ≤ low) (hhigh : high ≤ '9')
    (h : between low high c) : isDecimal c := by
  rw [between, Bool.and_eq_true, decide_eq_true_eq, decide_eq_true_eq] at h
  refine Number.isDecimal_of_isDigit ?_
  rw [Char.isDigit, Bool.and_eq_true, decide_eq_true_eq, decide_eq_true_eq]
  exact ⟨UInt32.le_trans hlow h.1, UInt32.le_trans h.2 hhigh⟩

theorem mem_numberStarts {pair : Char → Char → Bool} {single : Char → Bool} {n : Nat}
    (h : (n, rest) ∈ numberStarts pair single cs) :
    (∃ a b, cs = a :: b :: rest ∧ pair a b) ∨ ∃ a, cs = a :: rest ∧ single a := by
  unfold numberStarts at h
  rw [List.mem_append] at h
  rcases h with h | h
  · split at h
    · split at h
      · next fits =>
        obtain ⟨-, rfl⟩ := Prod.mk.inj (List.mem_singleton.mp h)
        exact .inl ⟨_, _, rfl, fits⟩
      · cases h
    · cases h
  · split at h
    · split at h
      · next fits =>
        obtain ⟨-, rfl⟩ := Prod.mk.inj (List.mem_singleton.mp h)
        exact .inr ⟨_, rfl, fits⟩
      · cases h
    · cases h

/-- A number takes one or two digits. -/
private theorem digits_of_mem_numberStarts {pair : Char → Char → Bool} {single : Char → Bool}
    {n : Nat} (hpair : ∀ a b, pair a b → isDecimal a ∧ isDecimal b)
    (hsingle : ∀ a, single a → isDecimal a) (h : (n, rest) ∈ numberStarts pair single cs) :
    ∃ taken, taken ≠ [] ∧ cs = taken ++ rest ∧ ∀ c ∈ taken, (isDecimal c || c == ' ') = true := by
  rcases mem_numberStarts h with ⟨a, b, rfl, fits⟩ | ⟨a, rfl, fits⟩
  · obtain ⟨ha, hb⟩ := hpair a b fits
    exact ⟨[a, b], by simp, rfl, by simp [ha, hb]⟩
  · exact ⟨[a], by simp, rfl, by simp [hsingle a fits]⟩

private theorem take_of_mem_nameStarts {names : List String} (nonempty : ∀ s ∈ names, s ≠ "")
    {i : Nat} (h : (i, rest) ∈ nameStarts names cs) :
    ∃ taken, taken ≠ [] ∧ cs = taken ++ rest := by
  obtain ⟨⟨name, k⟩, hname, hrest⟩ := List.mem_filterMap.mp h
  dsimp only at hrest
  split at hrest
  · next starts =>
    obtain ⟨-, rfl⟩ := Prod.mk.inj (Option.some.inj hrest)
    refine ⟨cs.take name.length, fun heq => ?_, (List.take_append_drop ..).symm⟩
    have hlength : name.length ≠ 0 := by
      rw [Ne, String.length_eq_zero_iff]
      exact nonempty name (List.fst_mem_of_mem_zipIdx hname)
    have hle := (List.isPrefixOf_iff_prefix.mp starts).length_le
    rw [List.length_map, String.length_toList] at hle
    rcases List.take_eq_nil_iff.mp heq with h | rfl
    · exact hlength h
    · exact hlength (Nat.le_zero.mp hle)
  · cases hrest

private theorem skip_suffix (c : Char) (cs : List Char) : (skip c cs).2 <:+ cs := by
  unfold skip
  split
  · split
    · exact List.suffix_cons ..
    · exact List.suffix_rfl
  · exact List.suffix_rfl

private theorem takeSixty?_suffix {n : Nat} (h : takeSixty? cs = some (n, rest)) : rest <:+ cs := by
  unfold takeSixty? at h
  split at h
  · split at h
    · obtain ⟨-, rfl⟩ := Prod.mk.inj (Option.some.inj h)
      exact ⟨[_, _], rfl⟩
    · cases h
  · cases h

private theorem zoneSeconds_suffix (cs : List Char) : (zoneSeconds cs).2 <:+ cs := by
  unfold zoneSeconds
  split
  · exact List.suffix_rfl
  · next seconds rest taken =>
    have hrest := (takeSixty?_suffix taken).trans (skip_suffix ':' cs)
    split <;> dsimp only <;> split
    · exact hrest
    · exact (List.drop_suffix ..).trans hrest
    · exact hrest
    · exact (List.drop_suffix ..).trans hrest

private theorem take_of_mem_zoneStarts {amount : Span} (h : (amount, rest) ∈ zoneStarts cs) :
    ∃ taken, taken ≠ [] ∧ cs = taken ++ rest := by
  unfold zoneStarts at h
  split at h
  · obtain ⟨-, rfl⟩ := Prod.mk.inj (List.mem_singleton.mp h)
    exact ⟨['Z'], by simp, rfl⟩
  · next sign a b later _ =>
    split at h
    · generalize hskip : skip ':' later = skipped at h
      obtain ⟨colon, afterHours⟩ := skipped
      dsimp only at h
      split at h
      · cases h
      · next minutes afterMinutes hminutes =>
        generalize hzone : zoneSeconds afterMinutes = zone at h
        obtain ⟨seconds, after⟩ := zone
        dsimp only at h
        split at h
        · cases h
        · obtain ⟨-, rfl⟩ := Prod.mk.inj (List.mem_singleton.mp h)
          have hafter := zoneSeconds_suffix afterMinutes
          have hlater := skip_suffix ':' later
          rw [hzone] at hafter
          rw [hskip] at hlater
          obtain ⟨front, hfront⟩ := hafter.trans ((takeSixty?_suffix hminutes).trans hlater)
          exact ⟨sign :: a :: b :: front, by simp, by rw [← hfront]; rfl⟩
    · cases h
  · cases h

/-- A gap may take all blanks in front, or fewer. -/
private theorem blanks_of_take {i : Nat} (hi : i < (cs.takeWhile isBlank).length) :
    cs.take ((cs.takeWhile isBlank).length - i) ≠ [] ∧
      ∀ c ∈ cs.take ((cs.takeWhile isBlank).length - i), isBlank c := by
  have hprefix := List.takeWhile_prefix (l := cs) isBlank
  have hle := hprefix.length_le
  refine ⟨List.ne_nil_of_length_pos ?_, fun c hc => ?_⟩
  · rw [List.length_take]
    omega
  · have htake : c ∈ cs.takeWhile isBlank := by
      rw [List.prefix_iff_eq_take.mp hprefix]
      exact (List.take_prefix_take_left (Nat.sub_le ..)).subset hc
    exact List.mem_takeWhile_imp htake

private theorem digit_of_between {low high c : Char} (h : between low high c)
    (digits : ('0' ≤ low && high ≤ '9') = true) : isDecimal c := by
  rw [Bool.and_eq_true, decide_eq_true_eq, decide_eq_true_eq] at digits
  exact isDecimal_of_between digits.1 digits.2 h

/-- **A part takes characters that it accepts**, and at least one. -/
theorem takes_of_mem_starts (h : (f', rest) ∈ p.starts f cs) :
    ∃ taken, taken ≠ [] ∧ cs = taken ++ rest ∧ ∀ c ∈ taken, p.accepts c := by
  cases p <;> dsimp only [Part.starts] at h
  case year =>
    split at h
    · next fits =>
      obtain ⟨-, rfl⟩ := Prod.mk.inj (List.mem_singleton.mp h)
      rw [Bool.and_eq_true, beq_iff_eq, List.all_eq_true] at fits
      refine ⟨cs.take 4, List.ne_nil_of_length_pos (by omega), (List.take_append_drop ..).symm,
        fun c hc => ?_⟩
      rw [Part.accepts, fits.2 c hc, Bool.true_or]
    · cases h
  case gap =>
    obtain ⟨i, hi, heq⟩ := List.mem_map.mp h
    obtain ⟨-, rfl⟩ := Prod.mk.inj heq
    obtain ⟨hne, blank⟩ := blanks_of_take (List.mem_range.mp hi)
    exact ⟨_, hne, (List.take_append_drop ..).symm, blank⟩
  case mark d =>
    split at h
    · next c left =>
      split at h
      · next fits =>
        obtain ⟨-, rfl⟩ := Prod.mk.inj (List.mem_singleton.mp h)
        exact ⟨[c], by simp, rfl, by simpa [Part.accepts] using fits⟩
      · cases h
    · cases h
  case zone =>
    obtain ⟨⟨amount, left⟩, hi, heq⟩ := List.mem_map.mp h
    obtain ⟨-, rfl⟩ := Prod.mk.inj heq
    obtain ⟨taken, hne, happend⟩ := take_of_mem_zoneStarts hi
    exact ⟨taken, hne, happend, fun _ _ => rfl⟩
  -- what is left are names and numbers
  all_goals
    obtain ⟨⟨n, left⟩, hn, heq⟩ := List.mem_map.mp h
    obtain ⟨-, rfl⟩ := Prod.mk.inj heq
  case monthShort | monthName | weekday =>
    obtain ⟨taken, hne, happend⟩ := take_of_mem_nameStarts (by decide +kernel) hn
    exact ⟨taken, hne, happend, fun _ _ => rfl⟩
  case month =>
    refine digits_of_mem_numberStarts (fun a b hab => ?_) (fun a ha => digit_of_between ha rfl) hn
    simp only [Bool.or_eq_true, Bool.and_eq_true, beq_iff_eq] at hab
    rcases hab with ⟨rfl, hb⟩ | ⟨rfl, hb⟩
    · exact ⟨by decide, digit_of_between hb rfl⟩
    · exact ⟨by decide, digit_of_between hb rfl⟩
  case day =>
    rcases List.mem_append.mp hn with hn | hn
    · refine digits_of_mem_numberStarts (fun a b hab => ?_) (fun a ha => digit_of_between ha rfl) hn
      simp only [Bool.or_eq_true, Bool.and_eq_true, beq_iff_eq] at hab
      rcases hab with (⟨rfl, hb⟩ | ⟨ha, hb⟩) | ⟨rfl, hb⟩
      · exact ⟨by decide, digit_of_between hb rfl⟩
      · exact ⟨digit_of_between ha rfl, hb⟩
      · exact ⟨by decide, digit_of_between hb rfl⟩
    · split at hn
      · next _ a later _ =>
        split at hn
        · next fits =>
          obtain ⟨-, rfl⟩ := Prod.mk.inj (List.mem_singleton.mp hn)
          exact ⟨[' ', a], by simp, rfl, by simp [Part.accepts, digit_of_between fits rfl]⟩
        · cases hn
      · cases hn
  case minute =>
    refine digits_of_mem_numberStarts (fun a b hab => ?_) (fun a ha => ha) hn
    obtain ⟨ha, hb⟩ := Bool.and_eq_true_iff.mp hab
    exact ⟨digit_of_between ha rfl, hb⟩
  all_goals
    refine digits_of_mem_numberStarts (fun a b hab => ?_) (fun a ha => ha) hn
    simp only [Bool.or_eq_true, Bool.and_eq_true, beq_iff_eq] at hab
    rcases hab with ⟨rfl, hb⟩ | ⟨ha, hb⟩
    · exact ⟨by decide, digit_of_between hb rfl⟩
    · exact ⟨digit_of_between ha rfl, hb⟩

/-! ### Whole texts -/

/-- What parts take of a text, one after the other. -/
theorem readParts?_takes (h : readParts? ps f cs = some (f', rest)) :
    ∃ takens : List (List Char), cs = takens.flatten ++ rest ∧
      List.Forall₂ (fun p taken => taken ≠ [] ∧ ∀ c ∈ taken, p.accepts c) ps takens := by
  induction ps generalizing f cs with
  | nil =>
    obtain ⟨-, rfl⟩ := Prod.mk.inj (Option.some.inj h)
    exact ⟨[], rfl, .nil⟩
  | cons p ps ih =>
    obtain ⟨⟨g, left⟩, hmem, hread⟩ := List.exists_of_findSome?_eq_some h
    obtain ⟨taken, hne, rfl, accepted⟩ := takes_of_mem_starts hmem
    obtain ⟨takens, rfl, htakens⟩ := ih hread
    exact ⟨taken :: takens, by rw [List.flatten_cons, List.append_assoc],
      .cons ⟨hne, accepted⟩ htakens⟩

/-- A text that is read has a character for each part. -/
theorem exists_accepted (h : readParts? ps f cs = some (f', rest)) (hp : p ∈ ps) :
    ∃ c ∈ cs, p.accepts c := by
  obtain ⟨takens, rfl, htakens⟩ := readParts?_takes h
  obtain ⟨i, hi, rfl⟩ := List.getElem_of_mem hp
  obtain ⟨hne, accepted⟩ := (List.forall₂_iff_get.mp htakens).2 i hi
    ((List.Forall₂.length_eq htakens) ▸ hi)
  obtain ⟨c, hc⟩ := List.exists_mem_of_ne_nil _ hne
  exact ⟨c, List.mem_append_left _ (List.mem_flatten_of_mem (List.get_mem ..) hc), accepted c hc⟩

/-- Each character of a text that is read as a whole is accepted by a part. -/
theorem accepted_of_mem (h : readParts? ps f cs = some (f', [])) {c : Char} (hc : c ∈ cs) :
    ∃ p ∈ ps, p.accepts c := by
  obtain ⟨takens, rfl, htakens⟩ := readParts?_takes h
  rw [List.append_nil] at hc
  obtain ⟨taken, htaken, hc⟩ := List.mem_flatten.mp hc
  obtain ⟨i, hi, rfl⟩ := List.getElem_of_mem htaken
  exact ⟨_, List.get_mem .., ((List.forall₂_iff_get.mp htakens).2 i
    (htakens.length_eq.symm ▸ hi) hi).2 c hc⟩

/-! ### Years -/

/-- Only a year sets the year, and only an offset the offset. -/
theorem frame_of_mem_starts (h : (f', rest) ∈ p.starts f cs) :
    (p ≠ .year → f'.year = f.year) ∧ (p ≠ .zone → f'.offset = f.offset) := by
  cases p <;> dsimp only [Part.starts] at h
  case year =>
    refine ⟨fun hne => absurd rfl hne, fun _ => ?_⟩
    split at h
    · obtain ⟨rfl, -⟩ := Prod.mk.inj (List.mem_singleton.mp h)
      rfl
    · cases h
  case mark d =>
    split at h
    · split at h
      · obtain ⟨rfl, -⟩ := Prod.mk.inj (List.mem_singleton.mp h)
        exact ⟨fun _ => rfl, fun _ => rfl⟩
      · cases h
    · cases h
  all_goals
    obtain ⟨read, -, heq⟩ := List.mem_map.mp h
    obtain ⟨rfl, -⟩ := Prod.mk.inj heq
  case zone => exact ⟨fun _ => rfl, fun hne => absurd rfl hne⟩
  all_goals exact ⟨fun _ => rfl, fun _ => rfl⟩

theorem frame_of_readParts? (noYear : Part.year ∉ ps) (noZone : Part.zone ∉ ps)
    (h : readParts? ps f cs = some (f', rest)) : f'.year = f.year ∧ f'.offset = f.offset := by
  induction ps generalizing f cs with
  | nil =>
    obtain ⟨rfl, -⟩ := Prod.mk.inj (Option.some.inj h)
    exact ⟨rfl, rfl⟩
  | cons p ps ih =>
    obtain ⟨⟨g, left⟩, hmem, hread⟩ := List.exists_of_findSome?_eq_some h
    rw [List.mem_cons, not_or] at noYear noZone
    obtain ⟨hyear, hoffset⟩ := frame_of_mem_starts hmem
    obtain ⟨hyear', hoffset'⟩ := ih noYear.2 noZone.2 hread
    exact ⟨hyear'.trans (hyear (Ne.symm noYear.1)), hoffset'.trans (hoffset (Ne.symm noZone.1))⟩

/-- A moment is in the year of its fields or later. -/
theorem Fields.moment?_spec {m : Moment} (h : f.moment? = some m) :
    m.offset = f.offset ∧ (daysBeforeYear f.year : Int) * Span.day ≤ m.wall := by
  rw [Fields.moment?, Option.bind_eq_bind, Option.bind_eq_some_iff] at h
  obtain ⟨d, hd, h⟩ := h
  obtain ⟨rfl, valid⟩ := Date.make?_spec hd
  obtain ⟨-, h⟩ := Option.ite_none_right_eq_some.mp h
  obtain rfl := Option.some.inj h
  refine ⟨rfl, ?_⟩
  have hday : 1 ≤ f.day := valid.day_pos
  have hordinal : (daysBeforeYear f.year : Int) ≤
      ((⟨f.year, f.month, f.day⟩ : Date).ordinal : Int) - 1 := by
    rw [Date.ordinal]
    dsimp only
    omega
  have hhour : 0 ≤ (f.hour : Int) * Span.hour := Int.mul_nonneg (Int.natCast_nonneg _) (by decide)
  have hminute : 0 ≤ (f.minute : Int) * Span.minute :=
    Int.mul_nonneg (Int.natCast_nonneg _) (by decide)
  have hsecond : 0 ≤ (f.second : Int) * Span.second :=
    Int.mul_nonneg (Int.natCast_nonneg _) (by decide)
  have hdays := Int.mul_le_mul_of_nonneg_right hordinal (by decide : 0 ≤ Span.day)
  dsimp only at hdays ⊢
  omega

/-- **A layout with the year in front** reads moments without an offset of the year that the
first four digits write, or a later one. -/
theorem read?_yearFirst {m : Moment} (noYear : Part.year ∉ ps) (noZone : Part.zone ∉ ps)
    (h : read? (.year :: ps) cs = some m) :
    m.offset = none ∧ (daysBeforeYear (number (cs.take 4)) : Int) * Span.day ≤ m.wall := by
  rw [read?, Option.bind_eq_bind, Option.bind_eq_some_iff] at h
  obtain ⟨⟨fields, rest⟩, hparts, h⟩ := h
  dsimp only at h
  split at h
  · obtain ⟨⟨g, left⟩, hmem, hread⟩ := List.exists_of_findSome?_eq_some hparts
    obtain ⟨hyear, hoffset⟩ := frame_of_readParts? noYear noZone hread
    obtain ⟨hmoment, hwall⟩ := Fields.moment?_spec h
    dsimp only [Part.starts] at hmem
    split at hmem
    · obtain ⟨rfl, -⟩ := Prod.mk.inj (List.mem_singleton.mp hmem)
      rw [hyear] at hwall
      exact ⟨hmoment.trans hoffset, hwall⟩
    · cases hmem
  · cases h

/-! ### The known layouts -/

/-- **Only the compact layout** fits a text of digits, the letter T and the letter Z. -/
theorem eq_compact_of_read? {layout : Layout} {m : Moment} (known : layout ∈ known)
    (chars : ∀ c ∈ cs, c.isDigit ∨ c = 'T' ∨ c = 'Z') (mem : 'T' ∈ cs)
    (h : layout.read? cs = some m) : layout = compact := by
  -- any other layout has a part that takes none of these characters, or none that takes a T
  have hall : (Layout.known.all fun layout => layout == compact ||
      (layout.any fun p => (digitChars ++ ['T', 'Z']).all fun c => !p.accepts c) ||
      layout.all fun p => !p.accepts 'T') = true := by
    decide +kernel
  have hother : layout = compact ∨
      (∃ p ∈ layout, ∀ c ∈ digitChars ++ ['T', 'Z'], p.accepts c = false) ∨
      ∀ p ∈ layout, p.accepts 'T' = false := by
    simpa only [Bool.or_eq_true, beq_iff_eq, List.any_eq_true, List.all_eq_true,
      Bool.not_eq_true', or_assoc] using List.all_eq_true.mp hall layout known
  rw [read?, Option.bind_eq_bind, Option.bind_eq_some_iff] at h
  obtain ⟨⟨fields, rest⟩, hparts, h⟩ := h
  dsimp only at h
  split at h
  · next hrest =>
    obtain rfl := List.isEmpty_iff.mp hrest
    rcases hother with rfl | ⟨p, hp, hnone⟩ | hnone
    · rfl
    · obtain ⟨c, hc, accepted⟩ := exists_accepted hparts hp
      have hmem : c ∈ digitChars ++ ['T', 'Z'] := by
        rcases chars c hc with digit | rfl | rfl
        · exact List.mem_append_left _ (mem_digitChars digit)
        · decide
        · decide
      rw [hnone c hmem] at accepted
      cases accepted
    · obtain ⟨p, hp, accepted⟩ := accepted_of_mem hparts mem
      rw [hnone p hp] at accepted
      cases accepted
  · cases h

end LogAlert.Layout
