import LogAlert.Proofs.Digits
import LogAlert.Query.Lexeme
import LogAlert.Text.Lower
import Mathlib.Data.List.DropRight
import Mathlib.Data.List.TakeWhile

/-!
# Characters of queries

The characters of bare words are neither blanks nor signs of the query language, and a text whose
first and last characters are no blanks is not changed by trimming.

## Main results

* `Text.isBlank_of_isBare` : bare characters are not blanks.
* `Lexeme.isBare_of_isDigit` : digits are bare characters.
* `Text.strip_eq_self`, `Text.strip_strip`, `Text.strip_append_blanks` : what trimming leaves of a
  text.
* `Text.head?_lower` : lower case keeps a digit at the front.
-/

namespace LogAlert

namespace Text

/-- The code points of blanks. -/
private def blankCodes : List Nat :=
  [9, 10, 11, 12, 13, 0x1c, 0x1d, 0x1e, 0x1f, 0x20, 0x85, 0xa0, 0x1680, 0x2000, 0x2001, 0x2002,
    0x2003, 0x2004, 0x2005, 0x2006, 0x2007, 0x2008, 0x2009, 0x200a, 0x2028, 0x2029, 0x202f, 0x205f,
    0x3000]

private theorem mem_blankCodes {c : Char} (h : isBlank c) : c.toNat ∈ blankCodes := by
  simp only [isBlank, Bool.or_eq_true, Bool.and_eq_true, decide_eq_true_eq, beq_iff_eq] at h
  simp only [blankCodes, List.mem_cons, List.not_mem_nil, or_false]
  omega

theorem isBlank_of_isBare {c : Char} (h : Lexeme.isBare c) : isBlank c = false := by
  refine Bool.eq_false_iff.mpr fun blank => ?_
  have hall : ∀ n ∈ blankCodes, Lexeme.isBare (Char.ofNat n) = false := by decide +kernel
  have hbare := hall c.toNat (mem_blankCodes blank)
  rw [Char.ofNat_toNat, h] at hbare
  cases hbare

/-- Blanks have no other lower-case form. -/
theorem lowerChar_of_isBlank {c : Char} (h : isBlank c) : lowerChar c = c := by
  have hall : ∀ n ∈ blankCodes, lowerChar (Char.ofNat n) = Char.ofNat n := by decide +kernel
  have hlower := hall c.toNat (mem_blankCodes h)
  rwa [Char.ofNat_toNat] at hlower

theorem stripBy_eq_self {p : Char → Bool} {cs : List Char}
    (first : ∀ c, cs.head? = some c → p c = false)
    (last : ∀ c, cs.getLast? = some c → p c = false) : stripBy p cs = cs := by
  have hdrop {cs : List Char} (first : ∀ c, cs.head? = some c → p c = false) :
      cs.dropWhile p = cs := by
    cases cs with
    | nil => rfl
    | cons c cs => rw [List.dropWhile_cons_of_neg (by rw [first c rfl]; exact Bool.false_ne_true)]
  rw [stripBy, hdrop first, hdrop (fun c hc => last c (by rwa [List.head?_reverse] at hc)),
    List.reverse_reverse]

/-- Trimming leaves a text as it is if its first and last characters are no blanks. -/
theorem strip_eq_self {cs : List Char} (first : ∀ c, cs.head? = some c → isBlank c = false)
    (last : ∀ c, cs.getLast? = some c → isBlank c = false) : strip cs = cs :=
  stripBy_eq_self first last

theorem eq_false_of_head?_dropWhile {p : Char → Bool} {cs : List Char} {c : Char}
    (h : (cs.dropWhile p).head? = some c) : p c = false := by
  have hnot := List.head?_dropWhile_not p cs
  rwa [h] at hnot

/-- Trimming twice is trimming once. -/
theorem strip_strip (cs : List Char) : strip (strip cs) = strip cs := by
  refine strip_eq_self (fun c hc => ?_) fun c hc => ?_
  · -- what is left has the first character of the text without the blanks at its front
    obtain ⟨rest, hrest⟩ := List.rdropWhile_prefix isBlank (l := cs.dropWhile isBlank)
    refine @eq_false_of_head?_dropWhile isBlank cs c ?_
    rw [← hrest, List.head?_append]
    exact congrArg (·.or rest.head?) hc
  · rw [strip, stripBy, List.getLast?_reverse] at hc
    exact eq_false_of_head?_dropWhile hc

/-- Blanks at the end of a text are trimmed. -/
theorem strip_append_blanks {blanks : List Char} (h : ∀ c ∈ blanks, isBlank c) (cs : List Char) :
    strip (cs ++ blanks) = strip cs := by
  rw [strip, stripBy, strip, stripBy, List.dropWhile_append]
  split
  · next hcs =>
    rw [List.isEmpty_iff.mp hcs, List.dropWhile_eq_nil_iff.mpr h]
  · rw [List.reverse_append,
      List.dropWhile_append_of_pos fun c hc => h c (List.mem_reverse.mp hc)]

theorem strip_of_bare {cs : List Char} (h : ∀ c ∈ cs, Lexeme.isBare c) : strip cs = cs :=
  strip_eq_self (fun c hc => isBlank_of_isBare (h c (List.mem_of_head? hc)))
    fun c hc => isBlank_of_isBare (h c (List.mem_of_getLast? hc))

theorem toLower_of_isDigit {c : Char} (h : c.isDigit) : c.toLower = c := by
  have capital : ¬(c.val ≥ 'A'.val ∧ c.val ≤ 'Z'.val) := by
    rintro ⟨above, -⟩
    have hge : 65 ≤ c.toNat := UInt32.le_iff_toNat_le.mp above
    have := isDigit_bounds h
    omega
  exact dif_neg capital

/-- The lower-case form of a text that begins with a digit begins with this digit. -/
theorem head?_lower {c : Char} {cs : List Char} (h : c.isDigit) :
    (lower (c :: cs)).head? = some c := by
  obtain ⟨low, high⟩ := isDigit_bounds h
  have hdotted : (c.toNat == 0x130) = false := beq_eq_false_iff_ne.mpr (by omega)
  have hsigma : (c.toNat == 0x3a3) = false := beq_eq_false_iff_ne.mpr (by omega)
  have hlower : lowerChar c = c := by
    rw [lowerChar, if_pos (by omega : c.toNat < 128), toLower_of_isDigit h]
  rw [lower, lowerAfter, hdotted, hsigma, hlower]
  rfl

end Text

namespace Lexeme

theorem isBare_of_isDigit {c : Char} (h : c.isDigit) : isBare c := by
  have hlt : c.toNat < 128 := by
    have := Text.isDigit_bounds h
    omega
  have hword : Text.isWord c = true := by
    rw [Text.isWord, if_pos hlt, Char.isAlphanum, h, Bool.or_true, Bool.true_or]
  rw [isBare, hword]
  rfl

end Lexeme

end LogAlert
