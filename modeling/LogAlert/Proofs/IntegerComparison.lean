import LogAlert.Match.Comparison
import LogAlert.Proofs.LargeIntegers
import LogAlert.Proofs.StoredForms

/-!
# Comparing integers

A value that is an integer and a comparand that writes one are compared by the numbers of double
precision nearest to them.  Rounding keeps the order and changes no integer below `2 ^ 53`, so
they are related as the integers are, except that integers with one nearest number count as equal.

## Main definitions

* `Binary64.nearestInt` : the integer to which an integer is rounded.
* `Operator.relatesInts` : the relation between integers.

## Main results

* `Binary64.nearestInt_mono`, `Binary64.eq_of_nearestInt_eq` : what rounding keeps.
* `Binary64.position?_ofIntRatio` : where a rounded integer lies.
* `Number.readNumber?_intText` : a written integer is read as its nearest number.
* `Match.compare_int` : how integers are compared, and when this is exact.
-/

namespace LogAlert

namespace Binary64

/-! ### The nearest integer of the format -/

/-- The distance between the integers of the format around `n`. -/
def spacing (n : Nat) : Nat :=
  2 ^ (n.log2 - 52)

/-- The magnitude to which a magnitude is rounded. -/
def nearestNat (n : Nat) : Nat :=
  spacing n * roundRatio n (spacing n)

/-- The integer to which an integer is rounded. -/
def nearestInt (n : Int) : Int :=
  signed (n < 0) (nearestNat n.natAbs)

theorem spacing_pos (n : Nat) : 0 < spacing n :=
  Nat.two_pow_pos _

theorem nearestNat_le {n c : Nat} (hdvd : spacing n ∣ c) (h : n ≤ c) : nearestNat n ≤ c := by
  obtain ⟨k, rfl⟩ := hdvd
  have hround := roundRatio_mono (spacing_pos n) h
  rw [Nat.mul_comm (spacing n) k, roundRatio_mul_self k (spacing_pos n)] at hround
  exact Nat.mul_le_mul_left _ hround

theorem le_nearestNat {n c : Nat} (hdvd : spacing n ∣ c) (h : c ≤ n) : c ≤ nearestNat n := by
  obtain ⟨k, rfl⟩ := hdvd
  have hround := roundRatio_mono (spacing_pos n) h
  rw [Nat.mul_comm (spacing n) k, roundRatio_mul_self k (spacing_pos n)] at hround
  exact Nat.mul_le_mul_left _ hround

theorem nearestNat_le_two_pow (n : Nat) : nearestNat n ≤ 2 ^ (n.log2 + 1) :=
  nearestNat_le (pow_dvd_pow 2 (by omega)) Nat.lt_log2_self.le

theorem two_pow_le_nearestNat {n : Nat} (hn : n ≠ 0) : 2 ^ n.log2 ≤ nearestNat n :=
  le_nearestNat (pow_dvd_pow 2 (Nat.sub_le ..)) (Nat.log2_self_le hn)

theorem nearestNat_of_log2_le {n : Nat} (h : n.log2 ≤ 52) : nearestNat n = n := by
  have hspacing : spacing n = 1 := by
    rw [spacing, Nat.sub_eq_zero_of_le h, Nat.pow_zero]
  have hround := roundRatio_mul_self n Nat.one_pos
  rw [Nat.mul_one] at hround
  rw [nearestNat, hspacing, hround, Nat.one_mul]

theorem nearestNat_mono {m n : Nat} (h : m ≤ n) : nearestNat m ≤ nearestNat n := by
  by_cases zero : m = 0
  · subst zero
    rw [nearestNat_of_log2_le (by decide)]
    exact Nat.zero_le _
  have hn : n ≠ 0 := by omega
  have hlog : m.log2 ≤ n.log2 := (Nat.le_log2 hn).mpr (Nat.le_trans (Nat.log2_self_le zero) h)
  rcases Nat.lt_or_eq_of_le hlog with lower | same
  · -- the power of two between them is a number of the format
    calc nearestNat m ≤ 2 ^ (m.log2 + 1) := nearestNat_le_two_pow m
      _ ≤ 2 ^ n.log2 := Nat.pow_le_pow_right (by decide) lower
      _ ≤ nearestNat n := two_pow_le_nearestNat hn
  · have hspacing : spacing m = spacing n := congrArg (fun k => 2 ^ (k - 52)) same
    rw [nearestNat, nearestNat, hspacing]
    exact Nat.mul_le_mul_left _ (roundRatio_mono (spacing_pos n) h)

theorem nearestNat_of_lt {n : Nat} (h : n < 2 ^ 53) : nearestNat n = n := by
  by_cases zero : n = 0
  · subst zero
    decide
  · exact nearestNat_of_log2_le (Nat.lt_succ_iff.mp ((Nat.log2_lt zero).mpr h))

theorem nearestNat_lt_iff {n : Nat} : nearestNat n < 2 ^ 53 ↔ n < 2 ^ 53 := by
  constructor
  · intro h
    by_contra! large
    have hn : n ≠ 0 := by omega
    have hpow := Nat.pow_le_pow_right (by decide : 0 < 2) ((Nat.le_log2 hn).mpr large)
    exact absurd h (Nat.not_lt.mpr (Nat.le_trans hpow (two_pow_le_nearestNat hn)))
  · intro h
    rwa [nearestNat_of_lt h]

/-- Rounding keeps the order of integers. -/
theorem nearestInt_mono {m n : Int} (h : m ≤ n) : nearestInt m ≤ nearestInt n := by
  have hnat {j k : Int} (hle : j.natAbs ≤ k.natAbs) := nearestNat_mono hle
  rw [nearestInt, nearestInt, signed, signed]
  by_cases hn : n < 0
  · have hm : m < 0 := Int.lt_of_le_of_lt h hn
    have := hnat (j := n) (k := m) (by omega)
    rw [decide_eq_true hm, decide_eq_true hn, if_pos rfl, if_pos rfl]
    omega
  · by_cases hm : m < 0
    · rw [decide_eq_true hm, decide_eq_false hn, if_pos rfl, if_neg Bool.false_ne_true]
      omega
    · have := hnat (j := m) (k := n) (by omega)
      rw [decide_eq_false hm, decide_eq_false hn, if_neg Bool.false_ne_true,
        if_neg Bool.false_ne_true]
      omega

theorem natAbs_nearestInt (n : Int) : (nearestInt n).natAbs = nearestNat n.natAbs := by
  rw [nearestInt, signed]
  split <;> simp

theorem nearestInt_of_lt {n : Int} (h : n.natAbs < 2 ^ 53) : nearestInt n = n := by
  rw [nearestInt, nearestNat_of_lt h, signed_natAbs]

/-- An integer below `2 ^ 53` is rounded to itself, and no other integer is. -/
theorem eq_of_nearestInt_eq {m n : Int} (small : m.natAbs < 2 ^ 53)
    (h : nearestInt m = nearestInt n) : m = n := by
  have hm := nearestInt_of_lt small
  have hn : n.natAbs < 2 ^ 53 := by
    rw [← nearestNat_lt_iff, ← natAbs_nearestInt, ← h, hm]
    exact small
  rw [← hm, h, nearestInt_of_lt hn]

/-! ### Rounded integers -/

/-- The rounded magnitude of an integer, in units of `2 ^ -1074`. -/
private theorem roundedUnits_one {n : Nat} (hn : n ≠ 0) :
    roundedUnits n 1 = nearestNat n * Position.one := by
  have hmin : minExponent = -1074 := rfl
  have hulp : ulpExponent n 1 = (n.log2 : Int) - 52 := by
    rw [ulpExponent, floorLog2_one hn]
    omega
  rw [roundedUnits, hulp]
  dsimp only
  by_cases large : 52 ≤ n.log2
  · obtain ⟨k, hk⟩ := Nat.exists_eq_add_of_le large
    have hexp : (n.log2 : Int) - 52 = (k : Int) := by omega
    have hsub : n.log2 - 52 = k := by omega
    have hunits : ((k : Int) - minExponent).toNat = k + 1074 := by omega
    rw [hexp, scaleDown, if_pos (Int.natCast_nonneg k), Int.toNat_natCast, Nat.pow_eq, Nat.one_mul,
      hunits, two_pow_add, nearestNat, spacing, hsub, ← Nat.mul_assoc, Nat.mul_comm (2 ^ k)]
  · obtain ⟨k, hk⟩ := Nat.exists_eq_add_of_lt (Nat.not_le.mp large)
    have hexp : (n.log2 : Int) - 52 = -((k + 1 : Nat) : Int) := by omega
    have hunits : (-((k + 1 : Nat) : Int) - minExponent).toNat = 1074 - (k + 1) := by omega
    have hround := roundRatio_mul_self (n * 2 ^ (k + 1)) Nat.one_pos
    rw [Nat.mul_one] at hround
    rw [hexp, scaleDown_neg n 1 (Nat.succ_pos k), hunits, hround,
      nearestNat_of_log2_le (by omega), Nat.mul_assoc, two_pow_mul (by omega)]

theorem signed_mul (negative : Bool) (a b : Nat) :
    signed negative (a * b) = signed negative a * b := by
  cases negative <;> simp [signed]

private theorem position?_ofRatio_one {negative : Bool} {n : Nat}
    (finite : ∀ sign, ofRatio negative n 1 ≠ .infinite sign) :
    (ofRatio negative n 1).position? = some (.ofInt (signed negative (nearestNat n))) := by
  by_cases hzero : n = 0
  · subst hzero
    have hnearest : nearestNat 0 = 0 := nearestNat_of_log2_le (by decide)
    have hsigned : signed negative 0 = 0 := by cases negative <;> rfl
    rw [ofRatio, if_pos (beq_self_eq_true 0), zero, position?, Nat.zero_mul, hnearest, hsigned,
      Position.ofInt, Int.zero_mul]
  rcases position?_ofRatio negative hzero 1 with located | ⟨infinite, -⟩
  · rw [located, roundedUnits_one hzero, signed_mul]
    rfl
  · exact absurd infinite (finite negative)

/-- An integer within the bound is rounded to a finite number. -/
theorem ofInt?_eq_some {n : Int} (h : n.natAbs < bound) : ofInt? n = some (ofIntRatio n 1) := by
  have hsome := mt ofInt?_eq_none.mp (Nat.not_le.mpr h)
  rw [ofInt?] at hsome ⊢
  split
  · next heq =>
    rw [heq] at hsome
    exact absurd rfl hsome
  · rfl

/-- **A rounded integer** lies at the integer nearest to it. -/
theorem position?_ofIntRatio {n : Int} (h : n.natAbs < bound) :
    (ofIntRatio n 1).position? = some (.ofInt (nearestInt n)) := by
  refine position?_ofRatio_one fun sign infinite => ?_
  have hsome := ofInt?_eq_some h
  rw [ofInt?, ofIntRatio, infinite] at hsome
  cases hsome

end Binary64

/-! ### Reading a written integer -/

namespace Number

theorem isDecimal_of_mem_toDigits {n : Nat} {c : Char} (h : c ∈ Nat.toDigits 10 n) :
    Text.isDecimal c :=
  isDecimal_of_isDigit (Nat.isDigit_of_mem_toDigits (by decide) (by decide) h)

/-- Digits are no word for a number. -/
theorem toDigits_ne_word {n : Nat} {word : String}
    (letter : word.toList.head?.any Char.isDigit = false) :
    String.ofList ((Nat.toDigits 10 n).map Char.toLower) ≠ word := by
  intro h
  obtain ⟨c, ds, hcons, digits⟩ := toDigits_cons n
  have hdigit := digits c List.mem_cons_self
  have hhead : word.toList.head? = some c := by
    rw [← h, String.toList_ofList, hcons, List.map_cons, Text.toLower_of_isDigit hdigit,
      List.head?_cons]
  rw [hhead, Option.any_some, hdigit] at letter
  cases letter

theorem ofDecimal_zero (negative : Bool) {n : Nat} (h : (Nat.toDigits 10 n).length ≤ 310) :
    Binary64.ofDecimal negative n 0 = .ofRatio negative n 1 := by
  by_cases hzero : n = 0
  · subst hzero
    rfl
  · rw [Binary64.ofDecimal, if_neg (by simpa using hzero)]
    dsimp only
    rw [if_neg (by omega), if_neg (by omega), if_pos (Int.le_refl 0)]
    exact congrArg (Binary64.ofRatio negative · 1) (Nat.mul_one n)

/-- **A written integer** is read as the number nearest to it. -/
theorem readNumber?_intText {n : Int} (h : (Nat.toDigits 10 n.natAbs).length ≤ 310) :
    readNumber? (Json.intText n) = some (.ofIntRatio n 1) := by
  have hwhole : (Nat.toDigits 10 n.natAbs).takeWhile Text.isDecimal = Nat.toDigits 10 n.natAbs :=
    List.takeWhile_eq_self_iff.mpr fun c hc => isDecimal_of_mem_toDigits hc
  have hrest : (Nat.toDigits 10 n.natAbs).dropWhile Text.isDecimal = [] :=
    List.dropWhile_eq_nil_iff.mpr fun c hc => isDecimal_of_mem_toDigits hc
  have hempty : (Nat.toDigits 10 n.natAbs).isEmpty = false :=
    List.isEmpty_eq_false_iff.mpr Nat.toDigits_ne_nil
  have hdecimal : readDecimal? (n < 0) (Nat.toDigits 10 n.natAbs) =
      some (.ofDecimal (n < 0) n.natAbs 0) := by
    rw [readDecimal?, hwhole, hrest]
    dsimp only
    rw [hempty, Bool.false_and, if_neg Bool.false_ne_true, List.append_nil,
      Json.Reader.digitsValue_toDigits]
    rfl
  rw [readNumber?, trim_intText, dropSeparators_plain (underscore_not_mem_intText n),
    Option.bind_eq_bind, Option.bind_some, splitSign_intText]
  dsimp only
  rw [beq_false_of_ne (toDigits_ne_word (by decide)),
    beq_false_of_ne (toDigits_ne_word (by decide)), beq_false_of_ne (toDigits_ne_word (by decide)),
    Bool.or_self, if_neg Bool.false_ne_true, if_neg Bool.false_ne_true, hdecimal,
    ofDecimal_zero _ h]
  rfl

end Number

/-! ### Relations between integers -/

/-- The relation between two integers. -/
def Operator.relatesInts (op : Operator) (a b : Int) : Bool :=
  match op with
  | .eq => a = b
  | .gt => b < a
  | .gte => b ≤ a
  | .lt => a < b
  | .lte => a ≤ b

namespace Operator

open Binary64

theorem relatesPositions_ofInt (op : Operator) (a b : Int) :
    op.relatesPositions (.ofInt a) (.ofInt b) = op.relatesInts a b := by
  cases op
  · exact beq_ofInt a b
  · exact before_ofInt b a
  · exact atMost_ofInt b a
  · exact before_ofInt a b
  · exact atMost_ofInt a b

theorem relatesInts_self (op : Operator) (a b : Int) : op.relatesInts a a = op.relatesInts b b := by
  cases op <;> simp [relatesInts]

/-- Rounded integers are related as the integers are, unless two of them become one. -/
theorem relatesInts_nearestInt (op : Operator) (a b : Int) :
    op.relatesInts (nearestInt a) (nearestInt b) = op.relatesInts a b ↔
      (nearestInt a = nearestInt b → op.relatesInts a b = op.relatesInts a a) := by
  by_cases same : nearestInt a = nearestInt b
  · rw [same, relatesInts_self op (nearestInt b) a]
    exact ⟨fun h _ => h.symm, fun h => (h rfl).symm⟩
  · refine iff_of_true ?_ fun h => absurd h same
    have hlt : nearestInt a < nearestInt b ↔ a < b := by
      constructor
      · exact fun h => lt_of_not_ge fun hle => absurd h (not_lt_of_ge (nearestInt_mono hle))
      · exact fun h => lt_of_le_of_ne (nearestInt_mono h.le) same
    have hne : a ≠ b := mt (congrArg nearestInt) same
    cases op
    · exact decide_eq_decide.mpr (iff_of_false same hne)
    all_goals
      refine decide_eq_decide.mpr ?_
      omega

end Operator

namespace Match

open Binary64

variable {a b : Int}

private theorem natAbs_lt_bound (h : a.natAbs < 10 ^ 300) : a.natAbs < bound :=
  Nat.lt_of_lt_of_le h (by decide +kernel)

theorem numberOf_int (h : a.natAbs < bound) :
    numberOf (.int a) = .ok (some (.ofInt (nearestInt a))) := by
  rw [numberOf, ofInt?_eq_some h]
  exact congrArg Except.ok (position?_ofIntRatio h)

theorem numberOf_intText (h : b.natAbs < 10 ^ 300) :
    numberOf (.str (String.ofList (Json.intText b))) = .ok (some (.ofInt (nearestInt b))) := by
  have hlength := (Nat.length_toDigits_le_iff (by decide) (by decide)).mpr h
  rw [numberOf, String.toList_ofList, Text.strip_of_bare fun _ => isBare_of_mem_intText,
    Number.readNumber?_intText (by omega), Option.bind_some,
    position?_ofIntRatio (natAbs_lt_bound h)]

theorem compare_nearestInt (ha : a.natAbs < 10 ^ 300) (hb : b.natAbs < 10 ^ 300) (op : Operator) :
    compare (.int a) op (String.ofList (Json.intText b)) =
      .ok (op.relatesInts (nearestInt a) (nearestInt b)) := by
  have hnull : (Json.int a).isNull = false := rfl
  rw [compare, hnull, if_neg Bool.false_ne_true, numberOf_int (natAbs_lt_bound ha),
    numberOf_intText hb, ← op.relatesPositions_ofInt]
  rfl

/-- **Comparison of integers.**  An integer and a written integer are related as the integers to
which they are rounded.  This is their own relation, except where different integers are rounded
to the same one and the relation tells them apart; it is always their own relation if one of them
is below `2 ^ 53`. -/
theorem compare_int (ha : a.natAbs < 10 ^ 300) (hb : b.natAbs < 10 ^ 300) (op : Operator) :
    compare (.int a) op (String.ofList (Json.intText b)) =
        .ok (op.relatesInts (nearestInt a) (nearestInt b)) ∧
      (compare (.int a) op (String.ofList (Json.intText b)) = .ok (op.relatesInts a b) ↔
        (nearestInt a = nearestInt b → op.relatesInts a b = op.relatesInts a a)) ∧
      (a.natAbs < 2 ^ 53 ∨ b.natAbs < 2 ^ 53 →
        compare (.int a) op (String.ofList (Json.intText b)) = .ok (op.relatesInts a b)) := by
  have hcompare := compare_nearestInt ha hb op
  have hexact : compare (.int a) op (String.ofList (Json.intText b)) = .ok (op.relatesInts a b) ↔
      (nearestInt a = nearestInt b → op.relatesInts a b = op.relatesInts a a) := by
    rw [hcompare, Except.ok.injEq]
    exact op.relatesInts_nearestInt a b
  refine ⟨hcompare, hexact, fun small => hexact.mpr fun same => ?_⟩
  obtain rfl : a = b := by
    rcases small with h | h
    · exact eq_of_nearestInt_eq h same
    · exact (eq_of_nearestInt_eq h same.symm).symm
  rfl

/-- An integer above `2 ^ 53` is told from the greatest one below it. -/
theorem compare_int_of_large :
    (9007199254740993 : Int).natAbs < 10 ^ 300 ∧ (9007199254740991 : Int).natAbs < 10 ^ 300 ∧
      compare (.int 9007199254740993) .gt (String.ofList (Json.intText 9007199254740991)) =
        .ok true :=
  ⟨by decide, by decide,
    (compare_int (by decide) (by decide) .gt).2.2 (.inr (by decide))⟩

/-- Comparison of integers is not exact: `2 ^ 53 + 1` counts as equal to `2 ^ 53`. -/
theorem compare_adjacent_integers :
    ¬∀ (a b : Int) (op : Operator), a.natAbs < 10 ^ 300 → b.natAbs < 10 ^ 300 →
      (compare (.int a) op (String.ofList (Json.intText b)) = .ok true ↔
        op.relatesInts a b = true) := by
  intro exact
  have ha : (9007199254740993 : Int).natAbs < 10 ^ 300 := by decide
  have hb : (9007199254740992 : Int).natAbs < 10 ^ 300 := by decide
  have hround : nearestInt 9007199254740993 = nearestInt 9007199254740992 := by decide
  have hequal : compare (.int 9007199254740993) .eq
      (String.ofList (Json.intText 9007199254740992)) = .ok true := by
    rw [compare_nearestInt ha hb, hround, Operator.relatesInts_self _ _ 0]
    rfl
  exact absurd ((exact _ _ .eq ha hb).mp hequal) (by decide)

end Match

end LogAlert
