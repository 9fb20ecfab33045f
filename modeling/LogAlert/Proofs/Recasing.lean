import LogAlert.Proofs.LongIntegers
import LogAlert.Query.Reading
import Mathlib.Data.List.Forall2
import Mathlib.Data.String.Basic
import Mathlib.Tactic.Order

/-!
# Comparands in the other case

The case of the letters of a comparand plays no part in the search for words, in equality, in
reading a number and in source patterns.  It does play a part where texts are ordered: letters are
ordered by code point, and all spellings of a comparand lie between the one in capitals and the one
in small letters.  A value between these two is ordered differently by different spellings.

## Main definitions

* `Text.Recased`, `Filter.Recased`, `Token.Recased` : what differs only in the case of ASCII
  letters.
* `Operator.SplitsCases` : a text lies between the spellings of a comparand.
* `Filter.DependsOnCase` : a filter orders a value that lies so.

## Main results

* `Text.apply_toLower` : what has one value at each letter in both cases is unaware of case.
* `Number.readNumber?_map_toLower`, `Text.lower_map_toLower`, `Pattern.occursIn_congr` : parts of
  the matcher that are unaware of case.
* `Operator.relatesTexts_congr` : the order of texts, as far as it is.
* `Token.recased_holds_iff` : the tokens and records for which case plays no part.
-/

namespace LogAlert

namespace Text

/-! ### Letters -/

theorem toLower_eq_or (c : Char) : c.toLower = c ∨ ∃ k < 26, c = Char.ofNat (65 + k) := by
  by_cases capital : c.val ≥ 'A'.val ∧ c.val ≤ 'Z'.val
  · have hle : 65 ≤ c.toNat := UInt32.le_iff_toNat_le.mp capital.1
    have hge : c.toNat ≤ 90 := UInt32.le_iff_toNat_le.mp capital.2
    refine .inr ⟨c.toNat - 65, by omega, ?_⟩
    rw [Nat.add_sub_cancel' hle, Char.ofNat_toNat]
  · exact .inl (dif_neg capital)

theorem toUpper_eq_or (c : Char) : c.toUpper = c ∨ ∃ k < 26, c = Char.ofNat (97 + k) := by
  by_cases small : 'a'.val ≤ c.val ∧ c.val ≤ 'z'.val
  · have hle : 97 ≤ c.toNat := UInt32.le_iff_toNat_le.mp small.1
    have hge : c.toNat ≤ 122 := UInt32.le_iff_toNat_le.mp small.2
    refine .inr ⟨c.toNat - 97, by omega, ?_⟩
    rw [Nat.add_sub_cancel' hle, Char.ofNat_toNat]
  · exact .inl (dif_neg small)

/-- What has one value at each letter in both cases is unaware of case. -/
theorem apply_toLower {α : Type} (f : Char → α)
    (same : ∀ k < 26, f (Char.ofNat (97 + k)) = f (Char.ofNat (65 + k))) (c : Char) :
    f c.toLower = f c := by
  rcases toLower_eq_or c with h | ⟨k, hk, rfl⟩
  · rw [h]
  · have small : ∀ k < 26, (Char.ofNat (65 + k)).toLower = Char.ofNat (97 + k) := by decide
    rw [small k hk, same k hk]

theorem apply_toUpper {α : Type} (f : Char → α)
    (same : ∀ k < 26, f (Char.ofNat (97 + k)) = f (Char.ofNat (65 + k))) (c : Char) :
    f c.toUpper = f c := by
  rcases toUpper_eq_or c with h | ⟨k, hk, rfl⟩
  · rw [h]
  · have capital : ∀ k < 26, (Char.ofNat (97 + k)).toUpper = Char.ofNat (65 + k) := by decide
    rw [capital k hk, same k hk]

theorem toLower_toLower (c : Char) : c.toLower.toLower = c.toLower :=
  apply_toLower Char.toLower (by decide) c

theorem toLower_toUpper (c : Char) : c.toUpper.toLower = c.toLower :=
  apply_toUpper Char.toLower (by decide) c

theorem toUpper_toLower (c : Char) : c.toLower.toUpper = c.toUpper :=
  apply_toLower Char.toUpper (by decide) c

theorem le_toLower (c : Char) : c ≤ c.toLower := by
  rcases toLower_eq_or c with h | ⟨k, hk, rfl⟩
  · rw [h]
  · revert k
    decide

theorem toUpper_le (c : Char) : c.toUpper ≤ c := by
  rcases toUpper_eq_or c with h | ⟨k, hk, rfl⟩
  · rw [h]
  · revert k
    decide

theorem isDecimal_toLower (c : Char) : isDecimal c.toLower = isDecimal c :=
  apply_toLower isDecimal (by decide) c

theorem lowerChar_toLower (c : Char) : lowerChar c.toLower = lowerChar c :=
  apply_toLower lowerChar (by decide) c

theorem toLower_beq {mark : Char} (noLetter : mark.isAlpha = false) (c : Char) :
    (c.toLower == mark) = (c == mark) := by
  have letters : ∀ k < 26, (Char.ofNat (97 + k)).isAlpha ∧ (Char.ofNat (65 + k)).isAlpha := by
    decide
  have hne {d : Char} (letter : d.isAlpha) : (d == mark) = false :=
    beq_false_of_ne fun h => by
      rw [h, noLetter] at letter
      cases letter
  refine apply_toLower (· == mark) (fun k hk => ?_) c
  rw [hne (letters k hk).1, hne (letters k hk).2]

theorem toLower_ne {mark c : Char} (noLetter : mark.isAlpha = false) (h : c ≠ mark) :
    c.toLower ≠ mark := by
  rwa [ne_eq, ← beq_iff_eq, toLower_beq noLetter, beq_iff_eq]

/-! ### Lower case and substrings -/

theorem startsCased_map_toLower (cs : List Char) :
    startsCased (cs.map Char.toLower) = startsCased cs := by
  have ignorable := apply_toLower (fun c => inBounds ignorableBounds c.toNat) (by decide +kernel)
  have cased := apply_toLower (fun c => inBounds casedBounds c.toNat) (by decide +kernel)
  induction cs with
  | nil => rfl
  | cons c cs ih => rw [List.map_cons, startsCased, startsCased, ignorable, cased, ih]

theorem lowerAfter_map_toLower (before cs : List Char) :
    lowerAfter (before.map Char.toLower) (cs.map Char.toLower) = lowerAfter before cs := by
  have dotted := apply_toLower (fun c => c.toNat == 0x130) (by decide)
  have sigma := apply_toLower (fun c => c.toNat == 0x3a3) (by decide)
  induction cs generalizing before with
  | nil => rfl
  | cons c cs ih =>
    rw [List.map_cons, lowerAfter, lowerAfter, dotted, sigma, lowerChar_toLower,
      startsCased_map_toLower, startsCased_map_toLower, ← List.map_cons, ih]

theorem lower_map_toLower (cs : List Char) : lower (cs.map Char.toLower) = lower cs :=
  lowerAfter_map_toLower [] cs

theorem splitOn_map_toLower {sep : Char} (noLetter : sep.isAlpha = false) (cs : List Char) :
    splitOn sep (cs.map Char.toLower) = (splitOn sep cs).map (·.map Char.toLower) := by
  induction cs with
  | nil => rfl
  | cons c cs ih =>
    rw [List.map_cons, splitOn, splitOn, ih, toLower_beq noLetter]
    cases splitOn sep cs with
    | nil => rfl
    | cons part parts => cases c == sep <;> simp

theorem stripBy_map_toLower {p : Char → Bool} (unaware : ∀ c, p c.toLower = p c)
    (cs : List Char) : stripBy p (cs.map Char.toLower) = (stripBy p cs).map Char.toLower := by
  have hp : p ∘ Char.toLower = p := funext unaware
  rw [stripBy, stripBy, List.dropWhile_map, hp, ← List.map_reverse, List.dropWhile_map, hp,
    ← List.map_reverse]

/-- Texts that differ at most in the case of ASCII letters. -/
def Recased (s t : String) : Prop :=
  s.toList.map Char.toLower = t.toList.map Char.toLower

theorem Recased.lower_eq {s t : String} (h : Recased s t) : lower t.toList = lower s.toList := by
  rw [← lower_map_toLower t.toList, ← h, lower_map_toLower]

end Text

/-! ### Numbers -/

namespace Number

open Text

theorem dropSeparators_map_toLower (afterDigit : Bool) (cs : List Char) :
    dropSeparators afterDigit (cs.map Char.toLower) =
      (dropSeparators afterDigit cs).map (·.map Char.toLower) := by
  have hmark : '_'.isAlpha = false := by decide
  have hlower : '_'.toLower = '_' := by decide
  induction afterDigit, cs using dropSeparators.induct with
  | case1 afterDigit => rfl
  | case2 afterDigit c cs digit ih =>
    rw [List.map_cons, List.map_cons, hlower, dropSeparators, dropSeparators, isDecimal_toLower,
      if_pos digit, if_pos digit, ih, Option.map_map, Option.map_map]
    rfl
  | case3 afterDigit c cs other =>
    rw [List.map_cons, List.map_cons, hlower, dropSeparators, dropSeparators, isDecimal_toLower,
      if_neg other, if_neg other]
    rfl
  | case4 afterDigit c cs last mark =>
    obtain rfl := eq_of_beq mark
    cases cs with
    | nil => rfl
    | cons d ds => exact absurd rfl (last d ds rfl)
  | case5 afterDigit c cs _ other ih =>
    have hother := mt beq_iff_eq.mpr other
    rw [List.map_cons, dropSeparators, dropSeparators, toLower_beq hmark, if_neg other,
      if_neg other, isDecimal_toLower, ih, Option.map_map, Option.map_map]
    · rfl
    · exact fun _ _ h => absurd h hother
    · exact fun _ _ h => absurd h (toLower_ne hmark hother)

theorem splitSign_map_toLower (cs : List Char) :
    splitSign (cs.map Char.toLower) =
      ((splitSign cs).1, (splitSign cs).2.map Char.toLower) := by
  rcases cs with _ | ⟨c, cs⟩
  · rfl
  rcases eq_or_ne c '-' with rfl | minus
  · rfl
  rcases eq_or_ne c '+' with rfl | plus
  · rfl
  have minus' := toLower_ne (by decide) minus
  have plus' := toLower_ne (by decide) plus
  simp [splitSign, minus, plus, minus', plus']

theorem digitsValue_map_toLower (cs : List Char) :
    digitsValue (cs.map Char.toLower) = digitsValue cs := by
  have hdigit := apply_toLower digitValue? (by decide)
  rw [digitsValue, digitsValue, List.foldl_map]
  simp only [hdigit]

theorem readExponent?_map_toLower (cs : List Char) :
    readExponent? (cs.map Char.toLower) = readExponent? cs := by
  have hmark := apply_toLower (fun c => c == 'e' || c == 'E') (by decide)
  have hdecimal : Text.isDecimal ∘ Char.toLower = Text.isDecimal := funext isDecimal_toLower
  cases cs with
  | nil => rfl
  | cons c cs =>
    rw [List.map_cons, readExponent?, readExponent?, hmark, splitSign_map_toLower]
    dsimp only
    rw [List.isEmpty_map, List.all_map, hdecimal, digitsValue_map_toLower]

theorem readDecimal?_map_toLower (negative : Bool) (cs : List Char) :
    readDecimal? negative (cs.map Char.toLower) = readDecimal? negative cs := by
  have hdecimal : Text.isDecimal ∘ Char.toLower = Text.isDecimal := funext isDecimal_toLower
  rw [readDecimal?, readDecimal?, List.takeWhile_map, List.dropWhile_map, hdecimal]
  generalize cs.takeWhile Text.isDecimal = whole
  rcases cs.dropWhile Text.isDecimal with _ | ⟨c, rest⟩
  · simp [digitsValue_map_toLower]
  rcases eq_or_ne c '.' with rfl | point
  · simp [List.takeWhile_map, List.dropWhile_map, hdecimal, ← List.map_append,
      digitsValue_map_toLower, readExponent?_map_toLower]
  · have point' := toLower_ne (by decide) point
    have hexponent := readExponent?_map_toLower (c :: rest)
    rw [List.map_cons] at hexponent
    simp [point, point', digitsValue_map_toLower, hexponent]

theorem readNumber?_map_toLower (cs : List Char) :
    readNumber? (cs.map Char.toLower) = readNumber? cs := by
  have hpadding := apply_toLower isPadding (by decide)
  have hlower : Char.toLower ∘ Char.toLower = Char.toLower := funext toLower_toLower
  rw [readNumber?, readNumber?, trim, stripBy_map_toLower hpadding, dropSeparators_map_toLower,
    Option.bind_eq_bind, Option.bind_map]
  refine Option.bind_congr fun cs _ => ?_
  dsimp only [Function.comp]
  rw [splitSign_map_toLower]
  dsimp only
  rw [List.map_map, hlower, readDecimal?_map_toLower]

end Number

/-! ### Source patterns -/

namespace Pattern

theorem afterLiteral?_map_toLower (literal cs : List Char) :
    afterLiteral? (literal.map Char.toLower) cs = afterLiteral? literal cs := by
  induction literal generalizing cs with
  | nil => rfl
  | cons p literal ih =>
    cases cs with
    | nil => rfl
    | cons c cs =>
      rw [List.map_cons, afterLiteral?, afterLiteral?, Text.sameLetter, Text.lowerChar_toLower, ih]
      rfl

theorem partsMatch_map_toLower (parts : List (List Char)) :
    partsMatch (parts.map (·.map Char.toLower)) = partsMatch parts := by
  induction parts with
  | nil => rfl
  | cons part parts ih =>
    funext cs
    rw [List.map_cons, partsMatch, partsMatch, afterLiteral?_map_toLower, ih, List.isEmpty_map]

theorem occursIn_congr {pattern pattern' : String} (h : Text.Recased pattern pattern')
    (text : String) : occursIn pattern' text = occursIn pattern text := by
  have each (s : String) : partsMatch (Text.splitOn '*' (s.toList.map Char.toLower)) =
      partsMatch (Text.splitOn '*' s.toList) := by
    rw [Text.splitOn_map_toLower (by decide), partsMatch_map_toLower]
  rw [occursIn, occursIn, ← each pattern, ← each pattern', h]

end Pattern

/-! ### The order of texts -/

namespace Text

/-- The spelling in capitals. -/
def capitals (s : String) : String :=
  String.ofList (s.toList.map Char.toUpper)

/-- The spelling in small letters. -/
def smalls (s : String) : String :=
  String.ofList (s.toList.map Char.toLower)

theorem Recased.refl (s : String) : Recased s s :=
  rfl

theorem recased_capitals (s : String) : Recased s (capitals s) := by
  have hlower : Char.toLower ∘ Char.toUpper = Char.toLower := funext toLower_toUpper
  rw [Recased, capitals, String.toList_ofList, List.map_map, hlower]

theorem recased_smalls (s : String) : Recased s (smalls s) := by
  have hlower : Char.toLower ∘ Char.toLower = Char.toLower := funext toLower_toLower
  rw [Recased, smalls, String.toList_ofList, List.map_map, hlower]

theorem le_of_forall₂ {cs ds : List Char} (h : List.Forall₂ (· ≤ ·) cs ds) : cs ≤ ds := by
  refine not_lt.mp fun lt => ?_
  induction h with
  | nil => exact lt_irrefl _ lt
  | cons hle _ ih =>
    rcases List.cons_lt_cons_iff.mp lt with h | ⟨-, h⟩
    · exact not_le_of_gt h hle
    · exact ih h

/-- All spellings of a text lie between the one in capitals and the one in small letters. -/
theorem Recased.bounds {s t : String} (h : Recased s t) : capitals s ≤ t ∧ t ≤ smalls s := by
  have hupper : Char.toUpper ∘ Char.toLower = Char.toUpper := funext toUpper_toLower
  have capital : s.toList.map Char.toUpper = t.toList.map Char.toUpper := by
    have := congrArg (List.map Char.toUpper) h
    rwa [List.map_map, List.map_map, hupper] at this
  constructor
  · rw [String.le_iff_toList_le, capitals, String.toList_ofList, capital]
    exact le_of_forall₂ (List.forall₂_map_left_iff.mpr
      (List.forall₂_same.mpr fun c _ => toUpper_le c))
  · rw [String.le_iff_toList_le, smalls, String.toList_ofList, h]
    exact le_of_forall₂ (List.forall₂_map_right_iff.mpr
      (List.forall₂_same.mpr fun c _ => le_toLower c))

end Text

/-- A text lies between two spellings of a comparand, so that the answer depends on the
spelling. -/
def Operator.SplitsCases (op : Operator) (text value : String) : Prop :=
  match op with
  | .eq => False
  | .gt | .lte => Text.capitals value < text ∧ text ≤ Text.smalls value
  | .gte | .lt => Text.capitals value ≤ text ∧ text < Text.smalls value

namespace Operator

variable {op : Operator} {text value value' : String}

/-- The order of texts does not depend on the spelling of the comparand, if the text does not lie
between two spellings. -/
theorem relatesTexts_congr (ordering : op ≠ .eq) (apart : ¬op.SplitsCases text value)
    (recased : Text.Recased value value') :
    op.relatesTexts text value' = op.relatesTexts text value := by
  have low := recased.bounds
  have high := (Text.Recased.refl value).bounds
  cases op with
  | eq => exact absurd rfl ordering
  | gt | lte | gte | lt =>
    refine decide_eq_decide.mpr ?_
    rcases not_and_or.mp apart with h | h <;> constructor <;> intro <;> order

/-- The answer with the comparand in capitals is not that with small letters, if the text lies
between two spellings. -/
theorem relatesTexts_ne (splits : op.SplitsCases text value) :
    op.relatesTexts text (Text.capitals value) ≠ op.relatesTexts text (Text.smalls value) := by
  cases op with
  | eq => cases splits
  | gt => exact mt decide_eq_decide.mp fun h => not_lt_of_ge splits.2 (h.mp splits.1)
  | gte => exact mt decide_eq_decide.mp fun h => not_le_of_gt splits.2 (h.mp splits.1)
  | lt => exact mt decide_eq_decide.mp fun h => not_lt_of_ge splits.1 (h.mpr splits.2)
  | lte => exact mt decide_eq_decide.mp fun h => not_le_of_gt splits.1 (h.mpr splits.2)

end Operator

/-! ### Comparisons -/

namespace Match

/-- A value is compared with a comparand as a text: it is there, it is no integer beyond double
precision, not both are numbers, and no integer in it is too long to be written. -/
def ComparedAsTexts (actual : Json) (value : String) : Prop :=
  actual.isNull = false ∧ actual.fits ∧ ∃ left right, numberOf actual = .ok left ∧
    numberOf (.str value) = .ok right ∧ (left = none ∨ right = none)

variable {actual : Json} {op : Operator} {value value' : String}

theorem numberOf_congr (recased : Text.Recased value value') :
    numberOf (.str value') = numberOf (.str value) := by
  have hblank := Text.apply_toLower Text.isBlank (by decide)
  have read (cs : List Char) : Number.readNumber? (Text.strip (cs.map Char.toLower)) =
      Number.readNumber? (Text.strip cs) := by
    rw [Text.strip, Text.stripBy_map_toLower hblank, Number.readNumber?_map_toLower]
    rfl
  rw [numberOf, numberOf, ← read value.toList, recased, read]

theorem containsFolded_congr (recased : Text.Recased value value') (text : String) :
    containsFolded value' text = containsFolded value text := by
  rw [containsFolded, containsFolded, recased.lower_eq]

theorem valuesContain_congr (recased : Text.Recased value value') (fields : Json.Fields) :
    valuesContain value' fields = valuesContain value fields := by
  induction fields with
  | nil => rfl
  | cons f fields ih => simp only [valuesContain, containsFolded_congr recased, ih]

theorem containsText_congr {r : Record} (recased : Text.Recased value value') :
    containsText r value' = containsText r value := by
  rw [containsText, containsText, containsFolded_congr recased, valuesContain_congr recased]

theorem ComparedAsTexts.congr (h : ComparedAsTexts actual value)
    (recased : Text.Recased value value') : ComparedAsTexts actual value' := by
  rw [ComparedAsTexts, numberOf_congr recased]
  exact h

theorem ComparedAsTexts.compare_eq (h : ComparedAsTexts actual value) (op : Operator) :
    compare actual op value = .ok (if op = .eq then containsFolded value actual.asText
      else op.relatesTexts actual.asText value) := by
  obtain ⟨present, fits, left, right, hleft, hright, notBoth⟩ := h
  rw [compare, present, if_neg Bool.false_ne_true, hleft, hright, textOf_eq fits]
  rcases notBoth with rfl | rfl
  · cases op <;> rfl
  · cases left <;> cases op <;> rfl

/-- Numbers are compared, if they are compared, whatever the spelling of the comparand. -/
theorem compare_recased_of_not (h : ¬ComparedAsTexts actual value)
    (recased : Text.Recased value value') :
    compare actual op value' = compare actual op value := by
  rw [compare, compare, numberOf_congr recased]
  cases present : actual.isNull with
  | true => rfl
  | false =>
    cases hleft : numberOf actual with
    | error e => rfl
    | ok left =>
      cases hright : numberOf (.str value) with
      | error e => rfl
      | ok right =>
        cases fits : actual.fits with
        | false =>
          -- the text is what fails, unless there are two numbers
          obtain ⟨e, he⟩ := textOf_error_iff.mpr fits
          rw [he]
          cases left <;> cases right <;> rfl
        | true =>
          have both := mt (fun h => ⟨present, fits, left, right, hleft, hright, h⟩) h
          obtain ⟨hleft, hright⟩ := not_or.mp both
          obtain ⟨a, rfl⟩ := Option.ne_none_iff_exists'.mp hleft
          obtain ⟨b, rfl⟩ := Option.ne_none_iff_exists'.mp hright
          rfl

/-- The answer does not depend on the spelling of the comparand, if the value is not compared with
it as a text that lies between two spellings. -/
theorem compare_recased (apart : ComparedAsTexts actual value → ¬op.SplitsCases actual.asText value)
    (recased : Text.Recased value value') :
    compare actual op value' = compare actual op value := by
  by_cases texts : ComparedAsTexts actual value
  · rw [texts.compare_eq, (texts.congr recased).compare_eq]
    by_cases equality : op = .eq
    · rw [if_pos equality, if_pos equality, containsFolded_congr recased]
    · rw [if_neg equality, if_neg equality,
        Operator.relatesTexts_congr equality (apart texts) recased]
  · exact compare_recased_of_not texts recased

/-- The answer depends on the spelling of the comparand, if the value is compared with it as a text
that lies between two spellings. -/
theorem compare_ne (texts : ComparedAsTexts actual value)
    (splits : op.SplitsCases actual.asText value) :
    compare actual op (Text.capitals value) ≠ compare actual op (Text.smalls value) := by
  have ordering : op ≠ .eq := by
    rintro rfl
    exact splits
  rw [(texts.congr (Text.recased_capitals value)).compare_eq,
    (texts.congr (Text.recased_smalls value)).compare_eq, if_neg ordering, if_neg ordering]
  exact mt Except.ok.inj (Operator.relatesTexts_ne splits)

end Match

/-! ### Tokens -/

/-- Filters that differ at most in the case of ASCII letters in a word, a phrase, a comparand or a
pattern. -/
inductive Filter.Recased : Filter → Filter → Prop where
  | term {text text' : String} (h : Text.Recased text text') : Recased (.term text) (.term text')
  | phrase {text text' : String} (h : Text.Recased text text') :
    Recased (.phrase text) (.phrase text')
  | metadata (key : String) (op : Operator) {value value' : String}
    (h : Text.Recased value value') : Recased (.metadata key op value) (.metadata key op value')
  | level (name : String) : Recased (.level name) (.level name)
  | timestamp (op : Operator) (m : Moment) : Recased (.timestamp op m) (.timestamp op m)
  | source {pattern pattern' : String} (h : Text.Recased pattern pattern') :
    Recased (.source pattern) (.source pattern')

/-- Tokens of one sign whose filters differ at most in the case of ASCII letters. -/
structure Token.Recased (t t' : Token) : Prop where
  excluded : t'.excluded = t.excluded
  filter : t.filter.Recased t'.filter

/-- The filter orders a value of the record's metadata as a text, and this text lies between two
spellings of the comparand. -/
def Filter.DependsOnCase (f : Filter) (r : Record) : Prop :=
  ∃ key op value actual, f = .metadata key op value ∧
    Match.lookup? r.metadata key = some actual ∧ Match.ComparedAsTexts actual value ∧
      op.SplitsCases actual.asText value

theorem Filter.Recased.holds_congr {f f' : Filter} {r : Record} (recased : f.Recased f')
    (unaware : ¬f.DependsOnCase r) : f'.holds r = f.holds r := by
  cases recased with
  | term h | phrase h => exact Match.containsText_congr h
  | metadata key op h =>
    rw [Filter.holds, Filter.holds, Match.metadataMatches, Match.metadataMatches]
    cases found : Match.lookup? r.metadata key with
    | none => rfl
    | some actual =>
      exact Match.compare_recased (fun texts splits =>
        unaware ⟨key, op, _, actual, rfl, found, texts, splits⟩) h
  | level | timestamp => rfl
  | source h => simp only [Filter.holds, Match.sourceMatches, Pattern.occursIn_congr h]

theorem Token.filter_holds_inj {excluded : Bool} {f f' : Filter} {r : Record}
    (h : Token.holds ⟨excluded, f⟩ r = Token.holds ⟨excluded, f'⟩ r) : f.holds r = f'.holds r := by
  rw [Token.holds, Token.holds] at h
  cases hf : f.holds r <;> cases hf' : f'.holds r <;> rw [hf, hf'] at h
  · exact congrArg Except.error (Except.error.inj h)
  · cases h
  · cases h
  · exact congrArg Except.ok (Bool.bne_left_inj.mp (Except.ok.inj h))

/-- **Case plays no part** in the answer to a token exactly if its filter does not order a text that
lies between two spellings of the comparand. -/
theorem Token.recased_holds_iff (t : Token) (r : Record) :
    (∀ t', t.Recased t' → t'.holds r = t.holds r) ↔ ¬t.filter.DependsOnCase r := by
  constructor
  · rintro same ⟨key, op, value, actual, filter, found, texts, splits⟩
    have answer {value' : String} (h : Text.Recased value value') :
        Token.holds ⟨t.excluded, .metadata key op value'⟩ r = t.holds r :=
      same _ ⟨rfl, filter ▸ .metadata key op h⟩
    have agree := Token.filter_holds_inj ((answer (Text.recased_capitals value)).trans
      (answer (Text.recased_smalls value)).symm)
    rw [Filter.holds, Filter.holds, Match.metadataMatches, Match.metadataMatches, found] at agree
    exact Match.compare_ne texts splits agree
  · intro unaware t' recased
    rw [Token.holds, Token.holds, recased.filter.holds_congr unaware, recased.excluded]

/-- Comparands are not unaware of case: the name "a" comes after "B" and before "b". -/
theorem Token.answer_depends_on_case :
    ¬∀ (query : List Char) (now : Moment) (tokens : List Token) (t t' : Token) (r : Record)
      (answer : Bool), Query.parse query now = .ok tokens → t ∈ tokens →
        (∀ op m, t.filter ≠ .timestamp op m) → t.Recased t' →
          t.holds r = .ok answer → t'.holds r = .ok answer := by
  intro unaware
  have alone : Lexeme.tokenize "name:>b".toList = ["name:>b".toList] := by decide +kernel
  have parsed : Query.parse "name:>b".toList default =
      .ok [⟨false, .metadata "name" .gt "b"⟩] := by
    rw [Query.parse, alone]
    rfl
  have answers := unaware _ _ _ _ ⟨false, .metadata "name" .gt "B"⟩
    { (default : Record) with metadata := [("name", .str "a")] } false parsed List.mem_cons_self
    nofun ⟨rfl, .metadata "name" .gt rfl⟩ rfl
  exact absurd (Except.ok.inj answers) (by decide)

end LogAlert
