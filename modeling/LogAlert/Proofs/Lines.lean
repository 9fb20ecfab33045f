import LogAlert.Text.Blank
import LogAlert.Text.Line
import LogAlert.Text.Utf8
import Mathlib.Data.List.Basic

/-!
# Lines of octets and of texts

A sequence is a number of lines and then a part in which no line ends.  What follows a sequence
goes on in that part and leaves the lines as they are.  Octets below 128 are characters of their
own whatever stands around them, so the text of a file is cut where its octets are cut.

## Main definitions

* `Text.LineOf` : the lines of a file and their numbers.

## Main results

* `Text.lineInduction` : induction on lines.
* `Text.completeLines_append`, `Text.lineOf_iff` : the lines of octets.
* `Text.Utf8.decode_append_ascii` : decoding on both sides of an octet below 128.
-/

namespace LogAlert.Text

section Cut

variable {α : Type} {isEnd : α → Bool}

/-- Nothing is cut off where no line ends. -/
theorem cutAfter_of_open {xs : List α} (h : ∀ x ∈ xs, isEnd x = false) :
    cutAfter isEnd xs = ([], xs) := by
  induction xs with
  | nil => rfl
  | cons x xs ih =>
    obtain ⟨hx, hxs⟩ := List.forall_mem_cons.mp h
    rw [cutAfter, ih hxs, hx]
    rfl

/-- The first end of a line ends the first line. -/
theorem cutAfter_line {body : List α} {x : α} (hbody : ∀ y ∈ body, isEnd y = false)
    (hx : isEnd x) (rest : List α) :
    cutAfter isEnd (body ++ x :: rest) =
      ((body ++ [x]) :: (cutAfter isEnd rest).1, (cutAfter isEnd rest).2) := by
  induction body with
  | nil =>
    rw [List.nil_append, cutAfter, hx]
    rfl
  | cons y body ih =>
    obtain ⟨hy, hbody⟩ := List.forall_mem_cons.mp hbody
    rw [List.cons_append, cutAfter, ih hbody, hy]
    rfl

/-- **Induction on lines**: a sequence has no end of a line, or it is a line and a sequence. -/
theorem lineInduction {motive : List α → Prop} (isEnd : α → Bool)
    (rest : ∀ tail, (∀ y ∈ tail, isEnd y = false) → motive tail)
    (line : ∀ body x later, (∀ y ∈ body, isEnd y = false) → isEnd x → motive later →
      motive (body ++ x :: later))
    (xs : List α) : motive xs := by
  cases h : xs.find? isEnd with
  | none => exact rest xs fun y hy => Bool.eq_false_iff.mpr (List.find?_eq_none.mp h y hy)
  | some x =>
    obtain ⟨hx, body, later, hsplit, hbody⟩ := List.find?_eq_some_iff_append.mp h
    have shorter : later.length < xs.length := by
      rw [hsplit, List.length_append, List.length_cons]
      omega
    rw [hsplit]
    refine line body x later (fun y hy => ?_) hx (lineInduction isEnd rest line later)
    simpa using hbody y hy
termination_by xs.length

variable (isEnd)

/-- The lines and the part after them are the whole sequence. -/
theorem flatten_cutAfter (xs : List α) :
    (cutAfter isEnd xs).1.flatten ++ (cutAfter isEnd xs).2 = xs := by
  induction xs using lineInduction isEnd with
  | rest tail h => rw [cutAfter_of_open h, List.flatten_nil, List.nil_append]
  | line body x later hbody hx ih =>
    rw [cutAfter_line hbody hx, List.flatten_cons, List.append_assoc, ih, List.append_assoc,
      List.singleton_append]

/-- No line ends in the part after the lines. -/
theorem open_cutAfter (xs : List α) : ∀ y ∈ (cutAfter isEnd xs).2, isEnd y = false := by
  induction xs using lineInduction isEnd with
  | rest tail h => rwa [cutAfter_of_open h]
  | line body x later hbody hx ih => rwa [cutAfter_line hbody hx]

/-- What follows goes on in the part after the lines. -/
theorem cutAfter_append (xs ys : List α) :
    cutAfter isEnd (xs ++ ys) =
      ((cutAfter isEnd xs).1 ++ (cutAfter isEnd ((cutAfter isEnd xs).2 ++ ys)).1,
        (cutAfter isEnd ((cutAfter isEnd xs).2 ++ ys)).2) := by
  induction xs using lineInduction isEnd with
  | rest tail h => rw [cutAfter_of_open h, List.nil_append]
  | line body x later hbody hx ih =>
    rw [List.append_assoc, List.cons_append, cutAfter_line hbody hx, ih, cutAfter_line hbody hx,
      List.cons_append]

end Cut

/-! ### Octets -/

/-- The line of a file with a number.  It ends in a line feed and has no other, and it stands at
the top of the file or after a line feed. -/
inductive LineOf (octets : List UInt8) : Nat → List UInt8 → Prop where
  | of_split (before body after : List UInt8) (split : octets = before ++ (body ++ 10 :: after))
      (top : ∀ b ∈ before.getLast?, b = 10) (whole : 10 ∉ body) :
      LineOf octets (before.count 10 + 1) (body ++ [10])

private theorem isEnd_false {body : List UInt8} (h : 10 ∉ body) : ∀ b ∈ body, (b == 10) = false :=
  fun _ hb => beq_eq_false_iff_ne.mpr fun heq => h (heq ▸ hb)

theorem completeLines_of_open {octets : List UInt8} (h : 10 ∉ octets) :
    completeLines octets = [] := by
  rw [completeLines, cutAfter_of_open (isEnd_false h)]

theorem completeLines_line {body : List UInt8} (h : 10 ∉ body) (rest : List UInt8) :
    completeLines (body ++ 10 :: rest) = (body ++ [10]) :: completeLines rest := by
  rw [completeLines, cutAfter_line (isEnd_false h) rfl]
  rfl

/-- **Induction on the lines of octets.** -/
theorem octetLineInduction {motive : List UInt8 → Prop}
    (rest : ∀ tail, 10 ∉ tail → motive tail)
    (line : ∀ body later, 10 ∉ body → motive later → motive (body ++ 10 :: later))
    (octets : List UInt8) : motive octets := by
  refine lineInduction (· == 10) (fun tail h => rest tail fun mem => ?_)
    (fun body x later hbody hx ih => ?_) octets
  · cases h 10 mem
  · rw [eq_of_beq hx]
    exact line body later (fun mem => nomatch hbody 10 mem) ih

/-- Behind the complete lines is the part in which no line ends. -/
private theorem drop_flatten_completeLines (octets more : List UInt8) :
    (octets ++ more).drop (completeLines octets).flatten.length =
      (cutAfter (· == 10) octets).2 ++ more := by
  have hsplit := flatten_cutAfter (· == 10) octets
  rw [← completeLines] at hsplit
  generalize (cutAfter (· == 10) octets).2 = tail at *
  generalize completeLines octets = ls at *
  rw [← hsplit, List.append_assoc, List.drop_left]

/-- What was read of a file is complete lines, and a file that goes on has these lines and those
of what is left. -/
theorem completeLines_append (octets more : List UInt8) :
    completeLines (octets ++ more) = completeLines octets ++
      completeLines ((octets ++ more).drop (completeLines octets).flatten.length) := by
  rw [drop_flatten_completeLines]
  exact congrArg Prod.fst (cutAfter_append (· == 10) octets more)

/-- No line ends behind the complete lines. -/
theorem not_mem_drop_completeLines (octets : List UInt8) :
    10 ∉ octets.drop (completeLines octets).flatten.length := by
  have hdrop := drop_flatten_completeLines octets []
  rw [List.append_nil, List.append_nil] at hdrop
  rw [hdrop]
  intro mem
  exact nomatch open_cutAfter (· == 10) octets 10 mem

/-- The complete lines stand at the front. -/
theorem length_flatten_completeLines (octets : List UInt8) :
    (completeLines octets).flatten.length ≤ octets.length := by
  conv_rhs => rw [← flatten_cutAfter (· == 10) octets]
  rw [List.length_append]
  exact Nat.le_add_right ..

theorem LineOf.cons {body later line : List UInt8} {number : Nat} (hbody : 10 ∉ body)
    (h : LineOf later number line) : LineOf (body ++ 10 :: later) (number + 1) line := by
  obtain ⟨before, inner, after, split, top, whole⟩ := h
  have hcount : before.count 10 + 1 = (body ++ 10 :: before).count 10 := by
    rw [List.count_append, List.count_cons_self, List.count_eq_zero.mpr hbody, Nat.zero_add]
  rw [hcount]
  refine .of_split _ inner after ?_ (fun b hb => ?_) whole
  · rw [split, List.append_assoc, List.cons_append]
  · rw [List.getLast?_append, List.getLast?_cons, Option.some_or] at hb
    cases hlast : before.getLast? with
    | none =>
      rw [hlast] at hb
      exact (Option.some.inj hb).symm
    | some x =>
      rw [hlast] at hb
      exact top b (hlast ▸ hb)

/-- Nothing is left behind the last line feed of a file that ends in one. -/
theorem eq_nil_of_open {tail : List UInt8} (ended : ∀ b ∈ tail.getLast?, b = 10)
    (h : 10 ∉ tail) : tail = [] := by
  refine List.getLast?_eq_none_iff.mp (Option.eq_none_iff_forall_not_mem.mpr fun b hb => ?_)
  exact h (ended b hb ▸ List.mem_of_getLast? hb)

/-- The last octet after a line is the last one. -/
theorem getLast?_later {body later : List UInt8} {b : UInt8} (h : b ∈ later.getLast?) :
    b ∈ (body ++ 10 :: later).getLast? := by
  rw [List.append_cons]
  exact List.mem_getLast?_append_of_mem_getLast? h

theorem getElem?_completeLines {before : List UInt8} (top : ∀ b ∈ before.getLast?, b = 10)
    {body : List UInt8} (whole : 10 ∉ body) (after : List UInt8) :
    (completeLines (before ++ (body ++ 10 :: after)))[before.count 10]? = some (body ++ [10]) := by
  induction before using octetLineInduction with
  | rest tail h =>
    obtain rfl := eq_nil_of_open top h
    rw [List.nil_append, completeLines_line whole, List.count_nil, List.getElem?_cons_zero]
  | line first later hfirst ih =>
    rw [List.append_assoc, List.cons_append, completeLines_line hfirst, List.count_append,
      List.count_cons_self, List.count_eq_zero.mpr hfirst, Nat.zero_add, List.getElem?_cons_succ]
    exact ih fun b hb => top b (getLast?_later hb)

/-- **The complete lines** are the lines of the file in the order of their numbers. -/
theorem lineOf_iff {octets line : List UInt8} {i : Nat} :
    LineOf octets (i + 1) line ↔ (completeLines octets)[i]? = some line := by
  constructor
  · generalize hnumber : i + 1 = number
    rintro ⟨before, body, after, split, top, whole⟩
    rw [Nat.succ.inj hnumber, split]
    exact getElem?_completeLines top whole _
  · induction octets using octetLineInduction generalizing i with
    | rest tail h =>
      rw [completeLines_of_open h]
      intro hline
      cases hline
    | line body later hbody ih =>
      rw [completeLines_line hbody]
      cases i with
      | zero =>
        intro hline
        obtain rfl := Option.some.inj hline
        exact .of_split [] body later rfl nofun hbody
      | succ i => exact fun hline => (ih hline).cons hbody

/-! ### Decoding -/

namespace Utf8

variable {x : UInt8}

theorem isTail_of_ascii (hx : x < 0x80) : isTail x = false := by
  rw [isTail, Bool.and_eq_false_iff]
  exact .inl (decide_eq_false (UInt8.not_le.mpr hx))

theorem secondFits_of_ascii (hx : x < 0x80) (lead : UInt8) : secondFits lead x = false := by
  have above : 0x80 ≤ (secondRange lead).1 := by
    rw [secondRange]
    repeat' split
    all_goals decide
  rw [secondFits, Bool.and_eq_false_iff]
  refine .inl (decide_eq_false (UInt8.not_le.mpr (UInt8.lt_of_lt_of_le hx above)))

/-- An octet below 128 goes on no character. -/
theorem decodeChar_append (hx : x < 0x80) (lead : UInt8) (rest later : List UInt8) :
    decodeChar lead (rest ++ x :: later) = decodeChar lead rest := by
  have tail := isTail_of_ascii hx
  have second := secondFits_of_ascii hx lead
  unfold decodeChar
  match rest with
  | [] => match later with
    | [] | [_] | _ :: _ :: _ => simp [tail, second]
  | [b] => match later with
    | [] | [_] | _ :: _ :: _ => cases hb : secondFits lead b <;> simp [tail, hb]
  | [b, c] => cases hb : secondFits lead b <;> cases hc : isTail c <;> simp [tail, hb, hc]
  | b :: c :: d :: rest => rfl

theorem decodeChar_le (lead : UInt8) (rest : List UInt8) :
    (decodeChar lead rest).2 ≤ rest.length := by
  unfold decodeChar
  repeat' split
  all_goals simp

/-- **An octet below 128 is a character of its own**, and what stands before and after it is read
by itself. -/
theorem decode_append_ascii (hx : x < 0x80) (octets later : List UInt8) :
    decode (octets ++ x :: later) = decode octets ++ Char.ofNat x.toNat :: decode later := by
  induction octets using decode.induct with
  | case1 =>
    have alone : decodeChar x later = (Char.ofNat x.toNat, 0) := by
      unfold decodeChar
      exact if_pos hx
    rw [List.nil_append, decode.eq_def, decode]
    dsimp only
    rw [alone]
    rfl
  | case2 lead rest ih =>
    rw [List.cons_append, decode, decodeChar_append hx,
      List.drop_append_of_le_length (decodeChar_le lead rest), ih, decode, List.cons_append]

/-- A code point below 128 is one of a character. -/
theorem toNat_ofNat {n : Nat} (h : n < 128) : (Char.ofNat n).toNat = n := by
  rw [Char.ofNat, dif_pos (.inl (by omega))]
  rfl

/-- A code point from 128 on, or none at all, is of no character between NUL and 128. -/
theorem ofNat_ne {m n : Nat} (hm : 0 < m ∧ m < 128) (hn : 128 ≤ n) :
    Char.ofNat n ≠ Char.ofNat m := by
  intro heq
  have hcode := toNat_ofNat hm.2
  rw [← heq] at hcode
  by_cases valid : n.isValidChar
  · rw [Char.ofNat, dif_pos valid] at hcode
    exact absurd hm.2 (Nat.not_lt.mpr (hcode ▸ hn))
  · rw [Char.ofNat, dif_neg valid] at hcode
    exact absurd hm.1 (hcode ▸ Nat.lt_irrefl 0)

/-- What may follow the first octet of a character makes it no shorter form of a character. -/
theorem le_of_secondFits {lead b : UInt8} (fits : secondFits lead b) :
    (lead.toNat = 0xe0 → 32 ≤ tailBits b) ∧ (lead.toNat = 0xf0 → 16 ≤ tailBits b) := by
  constructor
  · intro hlead
    obtain rfl : lead = 0xe0 := UInt8.toNat.inj hlead
    obtain ⟨low, high⟩ := Bool.and_eq_true_iff.mp fits
    replace low : 0xa0 ≤ b.toNat := of_decide_eq_true low
    replace high : b.toNat ≤ 0xbf := of_decide_eq_true high
    rw [tailBits]
    omega
  · intro hlead
    obtain rfl : lead = 0xf0 := UInt8.toNat.inj hlead
    obtain ⟨low, high⟩ := Bool.and_eq_true_iff.mp fits
    replace low : 0x90 ≤ b.toNat := of_decide_eq_true low
    replace high : b.toNat ≤ 0xbf := of_decide_eq_true high
    rw [tailBits]
    omega

/-- An octet from 128 on starts no character below 128. -/
theorem exists_code_of_decodeChar {lead : UInt8} (h : ¬lead < 0x80) (rest : List UInt8) :
    ∃ n, 128 ≤ n ∧ (decodeChar lead rest).1 = Char.ofNat n := by
  have broken : ∃ n, 128 ≤ n ∧ replacement = Char.ofNat n := ⟨0xfffd, by decide, rfl⟩
  have bounds {low high : UInt8} (h : (low ≤ lead && lead ≤ high) = true) :
      low.toNat ≤ lead.toNat ∧ lead.toNat ≤ high.toNat := by
    obtain ⟨above, below⟩ := Bool.and_eq_true_iff.mp h
    exact ⟨of_decide_eq_true above, of_decide_eq_true below⟩
  rw [decodeChar.eq_def, if_neg h]
  split
  · next two =>
    obtain ⟨low, high⟩ := bounds two
    repeat' split
    · exact ⟨_, by simp only [UInt8.reduceToNat] at low high; omega, rfl⟩
    all_goals exact broken
  split
  · next three =>
    obtain ⟨low, high⟩ := bounds three
    repeat' split
    · exact broken
    · next b _ _ fits _ =>
      obtain ⟨longer, -⟩ := le_of_secondFits (by simpa using fits)
      exact ⟨_, by simp only [UInt8.reduceToNat] at low high; omega, rfl⟩
    all_goals exact broken
  split
  · next four =>
    obtain ⟨low, high⟩ := bounds four
    repeat' split
    · exact broken
    · exact broken
    · next b _ _ _ fits _ _ =>
      obtain ⟨-, longer⟩ := le_of_secondFits (by simpa using fits)
      exact ⟨_, by simp only [UInt8.reduceToNat] at low high; omega, rfl⟩
    all_goals exact broken
  · exact broken

/-- A character between NUL and 128 starts with its own octet. -/
theorem decodeChar_ascii (pos : 0 < x) (hx : x < 0x80) {lead : UInt8} {rest : List UInt8}
    (h : (decodeChar lead rest).1 = Char.ofNat x.toNat) : lead = x := by
  have range : 0 < x.toNat ∧ x.toNat < 128 := ⟨UInt8.lt_iff_toNat_lt.mp pos, hx⟩
  by_cases single : lead < 0x80
  · rw [decodeChar.eq_def, if_pos single] at h
    have hcode : (Char.ofNat lead.toNat).toNat = (Char.ofNat x.toNat).toNat := congrArg _ h
    rw [toNat_ofNat (UInt8.lt_iff_toNat_lt.mp single), toNat_ofNat range.2] at hcode
    exact UInt8.toNat.inj hcode
  · obtain ⟨n, large, hn⟩ := exists_code_of_decodeChar single rest
    exact absurd (hn.symm.trans h) (ofNat_ne range large)

/-- **A character between NUL and 128 comes from its octet.**  NUL itself is left out: it also
stands for a number that is no code point. -/
theorem mem_of_mem_decode (pos : 0 < x) (hx : x < 0x80) {octets : List UInt8}
    (h : Char.ofNat x.toNat ∈ decode octets) : x ∈ octets := by
  induction octets using decode.induct with
  | case1 =>
    rw [decode] at h
    cases h
  | case2 lead rest ih =>
    rw [decode] at h
    rcases List.mem_cons.mp h with hlead | hrest
    · exact decodeChar_ascii pos hx hlead.symm ▸ List.mem_cons_self
    · exact List.mem_cons_of_mem _ (List.mem_of_mem_drop (ih hrest))

end Utf8

/-! ### Texts -/

theorem lines_line {body : List Char} (h : '\n' ∉ body) (rest : List Char) :
    lines (body ++ '\n' :: rest) = (body ++ ['\n']) :: lines rest := by
  have hbody : ∀ c ∈ body, (c == '\n') = false :=
    fun _ hc => beq_eq_false_iff_ne.mpr fun heq => h (heq ▸ hc)
  rw [lines, lines, cutAfter_line hbody rfl]
  dsimp only
  split <;> rfl

/-- A text without carriage returns keeps its line breaks. -/
theorem unifyBreaks_append {cs : List Char} (h : '\r' ∉ cs) (rest : List Char) :
    unifyBreaks (cs ++ rest) = cs ++ unifyBreaks rest := by
  induction cs with
  | nil => rfl
  | cons c cs ih =>
    obtain ⟨hc, hcs⟩ := not_or.mp (List.mem_cons.not.mp h)
    rw [List.cons_append, unifyBreaks, ih hcs, if_neg fun heq => hc (eq_of_beq heq).symm]
    · rfl
    · exact fun _ heq => absurd heq.symm hc

end LogAlert.Text
