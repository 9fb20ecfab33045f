import LogAlert.Proofs.Rounding

/-!
# Integers without a double

An integer has a nearest number of double precision unless it is too large: from the middle
between the greatest finite number and the next power of two on, rounding leaves the finite
numbers.

## Main definitions

* `Binary64.bound` : the least positive integer without a nearest number.

## Main results

* `Binary64.ofInt?_eq_none` : the integers without a nearest number.
-/

namespace LogAlert.Binary64

/-- The middle between the greatest finite number and the next power of two. -/
def bound : Nat :=
  2 ^ 971 * (2 ^ 53 - 1) + 2 ^ 970

theorem floorLog2_one {n : Nat} (hn : n ≠ 0) : floorLog2 n 1 = n.log2 := by
  have hle : 2 ^ n.log2 ≤ n := Nat.log2_self_le hn
  have hlog : Nat.log2 1 = 0 := by decide
  have hexp : (n.log2 : Int) - (Nat.log2 1 : Nat) = n.log2 := by
    rw [hlog]
    omega
  unfold floorLog2
  dsimp only
  rw [hexp, scaleDown, if_pos (Int.natCast_nonneg _), Int.toNat_natCast]
  change (if n < 1 * 2 ^ n.log2 then _ else _) = _
  rw [Nat.one_mul, if_neg (Nat.not_lt.mpr hle)]

/-- Below `2 ^ 53` times the divisor, rounding comes to `2 ^ 53` in the upper half of the last
step alone: the number before is odd. -/
private theorem roundRatio_eq_top {n h : Nat} (hh : 0 < h) (hn : n < 2 ^ 53 * (2 * h)) :
    roundRatio n (2 * h) = 2 ^ 53 ↔ 2 * h * (2 ^ 53 - 1) + h ≤ n := by
  have hdiv := Nat.div_add_mod n (2 * h)
  have hmod := Nat.mod_lt n (y := 2 * h) (by omega)
  have hq : n / (2 * h) < 2 ^ 53 := Nat.div_lt_of_lt_mul (by rwa [Nat.mul_comm])
  unfold roundRatio
  dsimp only
  generalize n / (2 * h) = q at *
  generalize n % (2 * h) = r at *
  rcases Nat.lt_or_ge q (2 ^ 53 - 1) with low | top
  · have hle : 2 * h * q ≤ 2 * h * (2 ^ 53 - 2) := Nat.mul_le_mul_left _ (by omega)
    have hstep : 2 * h * (2 ^ 53 - 1) = 2 * h * (2 ^ 53 - 2) + 2 * h := by ring
    constructor
    · intro hround
      split at hround
      · omega
      · split at hround
        · omega
        · split at hround <;> omega
    · omega
  · obtain rfl : q = 2 ^ 53 - 1 := by omega
    have hodd : ¬((2 ^ 53 - 1) % 2 == 0) := by decide
    rw [if_neg hodd]
    split
    · omega
    · split <;> omega

/-- A significand past the last one is carried into the exponent. -/
private theorem carry_infinite {negative : Bool} {m : Nat} {e : Int} :
    (∃ sign, (match if m == Nat.pow 2 53 then (Nat.pow 2 52, e + 1) else (m, e) with
      | (m, e) => if maxExponent < e then infinite negative else finite negative m e) =
        infinite sign) ↔ 971 < e ∨ e = 971 ∧ m = 2 ^ 53 := by
  have hend (m : Nat) (e : Int) :
      (∃ sign, (if maxExponent < e then infinite negative else finite negative m e) =
        infinite sign) ↔ 971 < e := by
    rw [maxExponent]
    split <;> simp [*]
  have hpow : Nat.pow 2 53 = 2 ^ 53 := rfl
  rw [hpow]
  by_cases top : m = 2 ^ 53
  · rw [if_pos (beq_iff_eq.mpr top)]
    refine (hend ..).trans ?_
    omega
  · rw [if_neg (mt eq_of_beq top)]
    refine (hend ..).trans ?_
    omega

/-- Rounding leaves the finite numbers by its exponent, or by a carry at the greatest one. -/
private theorem ofRatio_one {n : Nat} (hn : n ≠ 0) (negative : Bool) :
    (∃ sign, ofRatio negative n 1 = .infinite sign) ↔
      1024 ≤ n.log2 ∨ n.log2 = 1023 ∧ roundRatio n (2 * 2 ^ 970) = 2 ^ 53 := by
  have hexp : max (floorLog2 n 1 - 52) minExponent = (n.log2 : Int) - 52 := by
    rw [floorLog2_one hn, minExponent]
    omega
  have hzero : ¬(n == 0) := by simpa using hn
  rw [ofRatio, if_neg hzero]
  dsimp only
  rw [hexp]
  generalize hscaled : scaleDown n 1 ((n.log2 : Int) - 52) = scaled
  obtain ⟨a, b⟩ := scaled
  refine carry_infinite.trans ?_
  by_cases top : n.log2 = 1023
  · have hscale : scaleDown n 1 (1023 - 52) = (n, 2 * 2 ^ 970) :=
      congrArg (Prod.mk n) (by decide +kernel)
    rw [top] at hscaled
    obtain ⟨rfl, rfl⟩ := Prod.mk.inj (hscale.symm.trans hscaled)
    rw [top]
    generalize roundRatio n (2 * 2 ^ 970) = m
    omega
  · omega

private theorem ofInt?_eq_none_iff {n : Int} :
    ofInt? n = none ↔ ∃ sign, ofRatio (n < 0) n.natAbs 1 = .infinite sign := by
  rw [ofInt?, ofIntRatio]
  split
  · next sign h => simp [h]
  · next h =>
    simp only [reduceCtorEq, false_iff, not_exists]
    exact h

/-- **The integers without a nearest number** are those whose magnitude reaches the bound. -/
theorem ofInt?_eq_none {n : Int} : ofInt? n = none ↔ bound ≤ n.natAbs := by
  rw [ofInt?_eq_none_iff]
  by_cases zero : n = 0
  · subst zero
    have hbound : bound ≠ 0 := by decide +kernel
    simp [ofRatio, Binary64.zero, hbound]
  have hn : n.natAbs ≠ 0 := Int.natAbs_ne_zero.mpr zero
  rw [ofRatio_one hn]
  generalize n.natAbs = n at *
  rcases Nat.lt_trichotomy n.log2 1023 with low | top | high
  · have hlt := (Nat.log2_lt hn).mp low
    have hbound : n < bound := Nat.lt_of_lt_of_le hlt (by decide +kernel)
    refine iff_of_false ?_ (Nat.not_le.mpr hbound)
    rintro (h | ⟨h, -⟩)
    · exact absurd h (Nat.not_le.mpr (Nat.lt_succ_of_lt low))
    · exact absurd h (Nat.ne_of_lt low)
  · have small : n.log2 < 1024 := Nat.lt_of_le_of_lt (Nat.le_of_eq top) (Nat.lt_succ_self 1023)
    have upper := (Nat.log2_lt hn).mp small
    have hlt : n < 2 ^ 53 * (2 * 2 ^ 970) := Nat.lt_of_lt_of_le upper (by decide +kernel)
    have hbound : bound = 2 * 2 ^ 970 * (2 ^ 53 - 1) + 2 ^ 970 := by decide +kernel
    rw [roundRatio_eq_top (by decide +kernel) hlt, ← hbound]
    omega
  · have hle := (Nat.le_log2 hn).mp high
    exact iff_of_true (.inl high) (Nat.le_trans (by decide +kernel) hle)

end LogAlert.Binary64
