import LogAlert.Calendar.Iso
import Mathlib.Tactic.Ring

/-!
# Numbers with leading zeros

The parts of a written time are numbers of a fixed width.  Reading as many digits as were written
gives the number back, whatever follows.

## Main results

* `head?_toDigits` : numbers are written without leading zeros.
* `length_padded`, `isDigit_of_mem_padded`, `digitsValue_padded` : a number within its width.
* `Iso.takeNumber?_padded` : such a number is read back.
-/

namespace LogAlert

theorem Text.isDigit_bounds {c : Char} (h : c.isDigit) : 48 ≤ c.toNat ∧ c.toNat ≤ 57 := by
  rw [Char.isDigit, Bool.and_eq_true, decide_eq_true_eq, decide_eq_true_eq] at h
  exact ⟨UInt32.le_iff_toNat_le.mp h.1, UInt32.le_iff_toNat_le.mp h.2⟩

theorem ne_of_isDigit {c d : Char} (hc : c.isDigit) (hd : d.isDigit = false) : c ≠ d := by
  rintro rfl
  rw [hd] at hc
  cases hc

theorem toDigits_cons (n : Nat) :
    ∃ c ds, Nat.toDigits 10 n = c :: ds ∧ ∀ d ∈ c :: ds, d.isDigit := by
  obtain ⟨c, ds, hcons⟩ := List.exists_cons_of_ne_nil (Nat.toDigits_ne_nil (n := n) (b := 10))
  refine ⟨c, ds, hcons, fun d hd => ?_⟩
  rw [← hcons] at hd
  exact Nat.isDigit_of_mem_toDigits (by decide) (by decide) hd

/-- A number but zero has no leading zeros. -/
theorem head?_toDigits {n : Nat} (pos : 0 < n) : (Nat.toDigits 10 n).head? ≠ some '0' := by
  induction n using Nat.strongRecOn with
  | ind n ih =>
    by_cases h : n < 10
    · rw [Nat.toDigits_of_lt_base h, List.head?_cons, Ne, Option.some.injEq, Nat.digitChar_eq_zero]
      exact Nat.ne_of_gt pos
    · have hshort := ih (n / 10) (Nat.div_lt_self pos (by decide)) (by omega)
      obtain ⟨c, ds, hcons, -⟩ := toDigits_cons (n / 10)
      rw [hcons] at hshort
      rwa [Nat.toDigits_of_base_le (by decide) (Nat.not_lt.mp h), hcons]

/-- An integer is its magnitude with its sign. -/
theorem signed_natAbs (n : Int) : Binary64.signed (decide (n < 0)) n.natAbs = n := by
  rw [Binary64.signed]
  split
  · next negative =>
    have := of_decide_eq_true negative
    omega
  · next negative =>
    have := of_decide_eq_false (Bool.eq_false_iff.mpr negative)
    omega

theorem digitValue?_of_isDigit {c : Char} (h : c.isDigit) :
    Text.digitValue? c = some (c.toNat - '0'.toNat) := by
  have hlt : c.toNat < 128 := Nat.lt_of_le_of_lt (Text.isDigit_bounds h).2 (by decide)
  rw [Text.digitValue?, if_pos hlt, if_pos h]
  rfl

theorem Number.isDecimal_of_isDigit {c : Char} (h : c.isDigit) : Text.isDecimal c := by
  rw [Text.isDecimal, digitValue?_of_isDigit h]
  rfl

theorem digitsValue_eq {cs : List Char} (h : ∀ c ∈ cs, c.isDigit) :
    Number.digitsValue cs = Nat.ofDigitChars 10 cs 0 := by
  have hstep (init : Nat) : cs.foldl (fun n c => n * 10 + (Text.digitValue? c).getD 0) init =
      Nat.ofDigitChars 10 cs init := by
    induction cs generalizing init with
    | nil => rfl
    | cons c cs ih =>
      rw [List.foldl_cons, ih (fun d hd => h d (List.mem_cons_of_mem c hd)),
        digitValue?_of_isDigit (h c List.mem_cons_self), Nat.ofDigitChars_cons, Nat.mul_comm]
      rfl
  exact hstep 0

theorem Text.digitValue?_lt (c : Char) : (digitValue? c).getD 0 < 10 := by
  rw [digitValue?]
  split
  · split
    · next hdigit =>
      have := isDigit_bounds hdigit
      rw [Option.getD_some]
      omega
    · exact Nat.succ_pos 9
  · cases found : digitZeros.find? fun z => z ≤ c.toNat && c.toNat < z + 10 with
    | none => exact Nat.succ_pos 9
    | some z =>
      have hz := List.find?_some found
      rw [Bool.and_eq_true, decide_eq_true_eq, decide_eq_true_eq] at hz
      rw [Option.map_some, Option.getD_some]
      omega

/-- So many digits come to less than that power of ten. -/
theorem digitsValue_lt (cs : List Char) : Number.digitsValue cs < 10 ^ cs.length := by
  have hstep (init : Nat) : cs.foldl (fun n c => n * 10 + (Text.digitValue? c).getD 0) init <
      (init + 1) * 10 ^ cs.length := by
    induction cs generalizing init with
    | nil => simp
    | cons c cs ih =>
      have hc := Text.digitValue?_lt c
      rw [List.foldl_cons, List.length_cons]
      refine (ih _).trans_le ?_
      rw [Nat.pow_succ', ← Nat.mul_assoc]
      exact Nat.mul_le_mul_right _ (by omega)
  rw [Number.digitsValue]
  simpa using hstep 0

theorem Number.fits_iff {n : Int} : fits n ↔ n.natAbs < 10 ^ digitLimit := by
  rw [fits, decide_eq_true_eq]
  exact Nat.length_toDigits_le_iff (by decide) (by decide)

section Padded

variable {width n : Nat}

theorem isDigit_of_mem_padded {c : Char} (h : c ∈ padded width n) : c.isDigit := by
  rw [padded, List.mem_append] at h
  rcases h with h | h
  · rw [(List.mem_replicate.mp h).2]
    rfl
  · exact Nat.isDigit_of_mem_toDigits (by decide) (by decide) h

theorem length_padded (pos : 0 < width) (h : n < 10 ^ width) : (padded width n).length = width := by
  have hle := (Nat.length_toDigits_le_iff (by decide : 1 < 10) pos).mpr h
  rw [padded, List.length_append, List.length_replicate]
  omega

theorem digitsValue_padded (width n : Nat) : Number.digitsValue (padded width n) = n := by
  rw [digitsValue_eq fun c => isDigit_of_mem_padded, padded, Nat.ofDigitChars_append,
    Nat.ofDigitChars_replicate_zero, Nat.mul_zero, Nat.ofDigitChars_ten_toDigits]

theorem toDigits_eq_padded (n : Nat) (h : width = (Nat.toDigits 10 n).length) :
    Nat.toDigits 10 n = padded width n := by
  rw [padded, h, Nat.sub_self]
  rfl

end Padded

namespace Iso

/-- As many digits as are to be read are read. -/
theorem takeNumber?_append {count : Nat} {cs : List Char} (length : cs.length = count)
    (digits : ∀ c ∈ cs, c.isDigit) (rest : List Char) :
    takeNumber? count (cs ++ rest) = some (Number.digitsValue cs, rest) := by
  have hall : cs.all Char.isDigit = true := List.all_eq_true.mpr digits
  unfold takeNumber?
  rw [List.take_left' length, List.drop_left' length]
  dsimp only
  rw [hall, length, beq_self_eq_true]
  rfl

theorem takeNumber?_padded {width n : Nat} (pos : 0 < width) (h : n < 10 ^ width)
    (rest : List Char) : takeNumber? width (padded width n ++ rest) = some (n, rest) := by
  rw [takeNumber?_append (length_padded pos h) (fun c => isDigit_of_mem_padded),
    digitsValue_padded]

end Iso

end LogAlert
