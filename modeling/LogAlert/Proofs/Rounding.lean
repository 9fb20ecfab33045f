import LogAlert.Number.Binary64
import Mathlib.Tactic.Ring

/-!
# Rounding beside an integer

A ratio is rounded to double precision and then compared with an integer.  Rounding could take it
to the integer from below.  It does not as long as the integer has less than `2 ^ 52` parts, and it
never takes a ratio from above an integer to below it.

## Main definitions

* `Binary64.roundedUnits` : the magnitude to which a ratio is rounded.

## Main results

* `Binary64.position?_ofRatio` : where a rounded ratio lies.
* `Binary64.roundedUnits_lt`, `Binary64.le_roundedUnits` : rounding keeps a ratio on its side of an
  integer.
* `Binary64.ofIntRatio_before_iff` : a rounded ratio compares with an integer as the ratio does.
-/

namespace LogAlert

namespace Binary64

theorem one_pos : 0 < Position.one := by
  decide +kernel

theorem two_pow_add (k : Nat) : 2 ^ (k + 1074) = 2 ^ k * Position.one :=
  Nat.pow_add 2 k 1074

theorem two_pow_mul {k : Nat} (h : k ≤ 1074) : 2 ^ k * 2 ^ (1074 - k) = Position.one := by
  rw [← Nat.pow_add, Nat.add_sub_cancel' h]
  rfl

/-- Rounding a ratio moves it by at most a half. -/
theorem roundRatio_bounds (num : Nat) {den : Nat} (hden : 0 < den) :
    2 * num ≤ 2 * (den * roundRatio num den) + den ∧
      2 * (den * roundRatio num den) ≤ 2 * num + den := by
  have hdiv := Nat.div_add_mod num den
  have hmod := Nat.mod_lt num hden
  unfold roundRatio
  dsimp only
  split
  · omega
  · split
    · rw [Nat.mul_add]
      omega
    · split
      · omega
      · rw [Nat.mul_add]
        omega

/-- Rounding keeps the order of ratios. -/
theorem roundRatio_mono {num num' den : Nat} (hden : 0 < den) (h : num ≤ num') :
    roundRatio num den ≤ roundRatio num' den := by
  by_contra! lt
  have hle : den * (roundRatio num' den + 1) ≤ den * roundRatio num den :=
    Nat.mul_le_mul_left den lt
  rw [Nat.mul_add] at hle
  have hnum := roundRatio_bounds num hden
  have hnum' := roundRatio_bounds num' hden
  -- both are off by exactly a half, from the same ratio
  obtain rfl : num = num' := by omega
  exact absurd lt (Nat.lt_irrefl _)

/-- A finite number compares with an integer by its units. -/
theorem finite_before_ofInt (units c : Int) :
    (Position.mk 0 units).before (.ofInt c) = decide (units < c * Position.one) := by
  rw [Position.before, Position.ofInt, beq_self_eq_true, Bool.true_and,
    decide_eq_false (Int.lt_irrefl 0), Bool.false_or]

/-- Integers lie in their order. -/
theorem before_ofInt (m n : Int) : (Position.ofInt m).before (.ofInt n) = decide (m < n) := by
  have hone : (0 : Int) < Position.one := Int.natCast_pos.mpr one_pos
  rw [Position.ofInt, finite_before_ofInt]
  exact decide_eq_decide.mpr (Int.mul_lt_mul_right hone)

theorem beq_ofInt (m n : Int) : (Position.ofInt m == Position.ofInt n) = decide (m = n) := by
  have hone : (Position.one : Int) ≠ 0 := Int.natCast_ne_zero.mpr one_pos.ne'
  rw [beq_eq_decide]
  refine decide_eq_decide.mpr ⟨fun h => ?_, congrArg _⟩
  exact Int.eq_of_mul_eq_mul_right hone (congrArg Position.units h)

theorem atMost_ofInt (m n : Int) : (Position.ofInt m).atMost (.ofInt n) = decide (m ≤ n) := by
  rw [Position.atMost, beq_ofInt, before_ofInt, ← Bool.decide_or]
  exact decide_eq_decide.mpr (or_comm.trans Int.le_iff_lt_or_eq.symm)

/-- A ratio that is an integer is not rounded. -/
theorem roundRatio_mul_self (m : Nat) {den : Nat} (hden : 0 < den) :
    roundRatio (m * den) den = m := by
  unfold roundRatio
  rw [Nat.mul_div_cancel m hden, Nat.mul_mod_left]
  exact if_pos hden

theorem floorLog2_le (num den : Nat) : floorLog2 num den ≤ num.log2 - den.log2 := by
  unfold floorLog2
  dsimp only
  split
  · omega
  · exact Int.le_refl _

/-- The power of two below a ratio, where it is an integer. -/
theorem two_pow_floorLog2_le {num den n : Nat} (hnum : num ≠ 0)
    (h : (n : Int) ≤ floorLog2 num den) : den * 2 ^ n ≤ num := by
  unfold floorLog2 at h
  dsimp only at h
  split at h
  · -- the quotient of the powers of two below both is more than the ratio
    have hlog : den.log2 + 1 + n ≤ num.log2 := by omega
    calc den * 2 ^ n ≤ 2 ^ (den.log2 + 1) * 2 ^ n := Nat.mul_le_mul_right _ Nat.lt_log2_self.le
      _ = 2 ^ (den.log2 + 1 + n) := (Nat.pow_add ..).symm
      _ ≤ 2 ^ num.log2 := Nat.pow_le_pow_right (by decide) hlog
      _ ≤ num := Nat.log2_self_le hnum
  · next le =>
    rw [scaleDown, if_pos (Int.le_trans (Int.natCast_nonneg n) h)] at le
    refine Nat.le_trans (Nat.mul_le_mul_left den ?_) (Nat.not_lt.mp le)
    exact Nat.pow_le_pow_right (by decide) (by omega)

theorem scaleDown_neg (num den : Nat) {k : Nat} (hk : 0 < k) :
    scaleDown num den (-(k : Int)) = (num * 2 ^ k, den) := by
  have hneg : ¬(0 : Int) ≤ -(k : Int) := by omega
  rw [scaleDown, if_neg hneg, Int.neg_neg, Int.toNat_natCast]
  rfl

/-- The exponent of the number nearest to a ratio, as long as rounding does not carry. -/
def ulpExponent (num den : Nat) : Int :=
  max (floorLog2 num den - 52) minExponent

/-- The magnitude to which a ratio is rounded, in units of `2 ^ -1074`, if it is finite. -/
def roundedUnits (num den : Nat) : Nat :=
  let (a, b) := scaleDown num den (ulpExponent num den)
  roundRatio a b * 2 ^ (ulpExponent num den - minExponent).toNat

/-- A significand that rounding took out of its range stands for the same number one exponent
higher. -/
private theorem carry (m : Nat) {e : Int} (least : minExponent ≤ e) :
    ∃ m' e', (if m == Nat.pow 2 53 then (Nat.pow 2 52, e + 1) else (m, e)) = (m', e') ∧
      e' ≤ e + 1 ∧
      m' * Nat.pow 2 (e' - minExponent).toNat = m * 2 ^ (e - minExponent).toNat := by
  split
  · next h =>
    refine ⟨Nat.pow 2 52, e + 1, rfl, Int.le_refl _, ?_⟩
    have hexp : (e + 1 - minExponent).toNat = (e - minExponent).toNat + 1 := by omega
    rw [hexp, eq_of_beq h, Nat.pow_eq, Nat.pow_eq, Nat.pow_eq, ← Nat.pow_add, ← Nat.pow_add]
    congr 1
    omega
  · exact ⟨m, e, rfl, by omega, rfl⟩

/-- **Where a rounded ratio lies**: at its rounded magnitude, unless its exponent is too large. -/
theorem position?_ofRatio (negative : Bool) {num : Nat} (hnum : num ≠ 0) (den : Nat) :
    (ofRatio negative num den).position? = some ⟨0, signed negative (roundedUnits num den)⟩ ∨
      ofRatio negative num den = .infinite negative ∧ maxExponent ≤ ulpExponent num den := by
  rw [roundedUnits]
  unfold ofRatio
  rw [if_neg (by simpa using hnum)]
  dsimp only
  change _ ∨ _ ∧ maxExponent ≤ max (floorLog2 num den - 52) minExponent
  obtain ⟨m, e, hcarry, he, hvalue⟩ := carry
    (roundRatio (scaleDown num den (ulpExponent num den)).1
      (scaleDown num den (ulpExponent num den)).2)
    (e := ulpExponent num den) (Int.le_max_right _ _)
  rw [ulpExponent] at hcarry he hvalue ⊢
  rw [hcarry]
  dsimp only
  split
  · exact .inr ⟨rfl, by omega⟩
  · left
    rw [position?, hvalue]

/-- The unit in the last place of a ratio of less than `2 ^ 52` parts is at most a half, and less
than two parts. -/
private theorem exists_ulp {num den : Nat} (hnum : num ≠ 0) (small : num < 2 ^ 52)
    (hden : den < 2 ^ 64) :
    ∃ k : Nat, ulpExponent num den = -(k : Int) ∧ 0 < k ∧ k ≤ 1074 ∧ den < 2 ^ (k + 1) := by
  have hlog : num.log2 < 52 := (Nat.log2_lt hnum).mpr small
  have hfloor := floorLog2_le num den
  have hmin : minExponent = -1074 := rfl
  rw [ulpExponent]
  by_cases h : floorLog2 num den - 52 ≤ minExponent
  · refine ⟨(-minExponent).toNat, by omega, by decide, by decide, Nat.lt_of_lt_of_le hden ?_⟩
    exact Nat.pow_le_pow_right (by decide) (by decide)
  · refine ⟨(52 - floorLog2 num den).toNat, by omega, by omega, by omega, ?_⟩
    refine Nat.lt_of_lt_of_le (Nat.lt_log2_self (n := den)) ?_
    exact Nat.pow_le_pow_right (by decide) (by omega)

/-- A ratio below an integer, of less than `2 ^ 52` parts, is rounded to a number below this
integer. -/
theorem roundedUnits_lt {num den c : Nat} (hnum : num ≠ 0) (hden' : den < 2 ^ 64)
    (small : num < 2 ^ 52) (lt : num < c * den) :
    roundedUnits num den < c * Position.one := by
  have hden : 0 < den := Nat.pos_of_mul_pos_left (Nat.zero_lt_of_lt lt)
  obtain ⟨k, hk, kpos, kle, fine⟩ := exists_ulp hnum small hden'
  have hmin : minExponent = -1074 := rfl
  have hexp : (-(k : Int) - minExponent).toNat = 1074 - k := by omega
  rw [roundedUnits, hk, scaleDown_neg num den kpos, hexp]
  dsimp only
  generalize hm : roundRatio (num * 2 ^ k) den = m
  -- rounding adds less than the distance of one part
  have hlt : m < c * 2 ^ k := by
    have hle := (roundRatio_bounds (num * 2 ^ k) hden).2
    rw [hm] at hle
    have hpart : (num + 1) * 2 ^ k ≤ c * den * 2 ^ k := Nat.mul_le_mul_right _ lt
    refine Nat.lt_of_mul_lt_mul_left (a := den) ?_
    have hright : den * (c * 2 ^ k) = c * den * 2 ^ k := by
      rw [← Nat.mul_assoc, Nat.mul_comm den c]
    rw [hright]
    rw [Nat.add_mul, Nat.one_mul] at hpart
    rw [Nat.pow_succ] at fine
    omega
  rw [← two_pow_mul kle, ← Nat.mul_assoc]
  exact Nat.mul_lt_mul_of_pos_right hlt (Nat.two_pow_pos _)

/-- A ratio that is not below an integer of the format is not rounded to a number below it. -/
theorem le_roundedUnits {num den c : Nat} (hnum : num ≠ 0) (hden : 0 < den) (hc : c ≤ 2 ^ 52)
    (le : c * den ≤ num) : c * Position.one ≤ roundedUnits num den := by
  rw [roundedUnits]
  generalize he : ulpExponent num den = e
  rw [ulpExponent] at he
  have hmin : minExponent = -1074 := rfl
  dsimp only
  by_cases neg : e < 0
  · obtain ⟨k, rfl⟩ : ∃ k : Nat, e = -(k : Int) := ⟨(-e).toNat, by omega⟩
    have hexp : (-(k : Int) - minExponent).toNat = 1074 - k := by omega
    have hround : c * 2 ^ k ≤ roundRatio (num * 2 ^ k) den := by
      have hmono := roundRatio_mono hden (Nat.mul_le_mul_right (2 ^ k) le)
      rwa [Nat.mul_right_comm, roundRatio_mul_self _ hden] at hmono
    rw [scaleDown_neg num den (by omega), hexp, ← two_pow_mul (k := k) (by omega), ← Nat.mul_assoc]
    exact Nat.mul_le_mul_right _ hround
  · obtain ⟨k, rfl⟩ := Int.eq_ofNat_of_zero_le (Int.not_lt.mp neg)
    have hexp : ((k : Int) - minExponent).toNat = k + 1074 := by omega
    -- the significand of so large a ratio has all its digits
    have hlarge : den * 2 ^ (52 + k) ≤ num := two_pow_floorLog2_le hnum (by omega)
    have hround : 2 ^ 52 ≤ roundRatio num (den * 2 ^ k) := by
      have hpos : 0 < den * 2 ^ k := Nat.mul_pos hden (Nat.two_pow_pos k)
      rw [Nat.pow_add, Nat.mul_left_comm] at hlarge
      have hmono := roundRatio_mono hpos hlarge
      rwa [roundRatio_mul_self _ hpos] at hmono
    rw [scaleDown, if_pos (Int.natCast_nonneg k), Int.toNat_natCast, hexp, two_pow_add]
    refine Nat.mul_le_mul (Nat.le_trans hc hround) ?_
    exact Nat.le_mul_of_pos_left _ (Nat.two_pow_pos k)

/-- A ratio is rounded to a number below an integer exactly if it is below it. -/
theorem roundedUnits_lt_iff {num den c : Nat} (hnum : num ≠ 0) (hden : 0 < den)
    (hden' : den < 2 ^ 64) (fine : c * den ≤ 2 ^ 52) :
    roundedUnits num den < c * Position.one ↔ num < c * den := by
  constructor
  · intro lt
    by_contra! le
    have hc : c ≤ 2 ^ 52 := Nat.le_trans (Nat.le_mul_of_pos_right c hden) fine
    exact absurd lt (Nat.not_lt.mpr (le_roundedUnits hnum hden hc le))
  · exact fun lt => roundedUnits_lt hnum hden' (Nat.lt_of_lt_of_le lt fine) lt

/-- **Rounding is exact at an integer.**  The number nearest to a ratio lies before a positive
integer exactly if the ratio is below it. -/
theorem ofIntRatio_before_iff {num : Int} {den : Nat} {c : Int} (hden : 0 < den)
    (hden' : den < 2 ^ 64) (hc : 0 < c) (fine : c * den ≤ 2 ^ 52) :
    ∃ p, (ofIntRatio num den).position? = some p ∧
      p.before (.ofInt c) = decide (num < c * den) := by
  have hone : (0 : Int) < c * Position.one := Int.mul_pos hc (Int.natCast_pos.mpr one_pos)
  have hbound : 0 < c * (den : Int) := Int.mul_pos hc (Int.natCast_pos.mpr hden)
  rw [ofIntRatio]
  by_cases zero : num = 0
  · subst zero
    refine ⟨⟨0, 0⟩, rfl, ?_⟩
    rw [finite_before_ofInt, decide_eq_true hone, decide_eq_true hbound]
  have hnum : num.natAbs ≠ 0 := Int.natAbs_ne_zero.mpr zero
  have rounded := position?_ofRatio (num < 0) hnum den
  by_cases neg : num < 0
  · -- a negative ratio is not rounded to a positive number
    rw [decide_eq_true neg] at rounded ⊢
    rw [decide_eq_true (Int.lt_trans neg hbound)]
    rcases rounded with finite | ⟨infinite, -⟩
    · refine ⟨_, finite, ?_⟩
      rw [finite_before_ofInt, decide_eq_true_eq]
      exact Int.lt_of_le_of_lt (Int.neg_nonpos_of_nonneg (Int.natCast_nonneg _)) hone
    · rw [infinite]
      exact ⟨_, rfl, rfl⟩
  · obtain ⟨n, rfl⟩ := Int.eq_ofNat_of_zero_le (Int.not_lt.mp neg)
    obtain ⟨c, rfl⟩ := Int.eq_ofNat_of_zero_le hc.le
    rw [← Int.natCast_mul] at fine ⊢
    have fine' : c * den ≤ 2 ^ 52 := by exact_mod_cast fine
    rw [decide_eq_false neg, Int.natAbs_natCast] at rounded ⊢
    rw [Int.natAbs_natCast] at hnum
    rcases rounded with finite | ⟨infinite, large⟩
    · refine ⟨_, finite, ?_⟩
      rw [finite_before_ofInt, ← Int.natCast_mul]
      refine decide_eq_decide.mpr (Int.ofNat_lt.trans ?_)
      exact (roundedUnits_lt_iff hnum hden hden' fine').trans Int.ofNat_lt.symm
    · rw [infinite]
      refine ⟨_, rfl, (decide_eq_false fun lt => ?_).symm⟩
      obtain ⟨k, hk, -⟩ :=
        exists_ulp hnum (Nat.lt_of_lt_of_le (Int.ofNat_lt.mp lt) fine') hden'
      have hmax : maxExponent = 971 := rfl
      omega

end Binary64

end LogAlert
