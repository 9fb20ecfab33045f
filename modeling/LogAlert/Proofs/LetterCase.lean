import LogAlert.Text.Lower
import LogAlert.Text.Search
import Mathlib.Data.List.Infix

/-!
# Lower case in context

The lower-case form of a text inside another one is that of the text itself, but for capital sigmas:
whether one of these takes its final form depends on the letters around it.  A text is found in all
texts that contain it, case being ignored, unless the text leaves it open what form a sigma takes.

## Main definitions

* `Text.lowerBetween` : the lower-case form of a part of a text.
* `Text.HasOpenSigma` : the form of a sigma depends on what stands around the text.

## Main results

* `Text.lower_append` : the lower-case form of a text in parts.
* `Text.lower_infix_iff` : the texts that are found in all texts that contain them.
* `Text.contains_iff_infix` : a search finds a text exactly where it occurs.
-/

namespace LogAlert.Text

/-- A search finds a text exactly if it occurs. -/
theorem contains_iff_infix {needle cs : List Char} : contains needle cs ↔ needle <:+: cs := by
  induction cs with
  | nil => rw [contains, List.isEmpty_iff, List.infix_nil]
  | cons c cs ih =>
    rw [contains, Bool.or_eq_true, List.isPrefixOf_iff_prefix, ih, List.infix_cons_iff]

/-! ### One character -/

/-- The lower-case form of one character; a capital sigma has two. -/
def lowerImage (c : Char) (final : Bool) : List Char :=
  if c.toNat == 0x130 then ['i', '\u0307']
  else if c.toNat == 0x3a3 then if final then ['\u03c2'] else ['\u03c3']
  else [lowerChar c]

/-- Whether a capital sigma takes its final form after the characters `before`, nearest first, and
ahead of the characters `after`. -/
def endsWord (before after : List Char) : Bool :=
  startsCased before && !startsCased after

theorem toNat_beq_eq_false {c d : Char} (h : c ≠ d) : (c.toNat == d.toNat) = false :=
  beq_eq_false_iff_ne.mpr fun hcode => h (Char.toNat_inj.mp hcode)

theorem lowerImage_eq {c : Char} (h : c ≠ '\u03a3') (final final' : Bool) :
    lowerImage c final = lowerImage c final' := by
  have hsigma : (c.toNat == 0x3a3) = false := toNat_beq_eq_false h
  rw [lowerImage, lowerImage, hsigma]
  rfl

theorem lowerImage_single {c : Char} (dotted : c ≠ '\u0130') (sigma : c ≠ '\u03a3') (final : Bool) :
    lowerImage c final = [lowerChar c] := by
  have hdotted : (c.toNat == 0x130) = false := toNat_beq_eq_false dotted
  have hsigma : (c.toNat == 0x3a3) = false := toNat_beq_eq_false sigma
  rw [lowerImage, hdotted, hsigma]
  rfl

/-! ### Parts of a text -/

/-- The lower-case form of a part of a text, between the characters `before`, nearest first, and the
characters `after`. -/
def lowerBetween (before : List Char) : List Char → List Char → List Char
  | [], _ => []
  | c :: cs, after =>
    lowerImage c (endsWord before (cs ++ after)) ++ lowerBetween (c :: before) cs after

variable {cs ds before after before' after' : List Char}

theorem lowerBetween_append (before cs ds after : List Char) :
    lowerBetween before (cs ++ ds) after =
      lowerBetween before cs (ds ++ after) ++ lowerBetween (cs.reverse ++ before) ds after := by
  induction cs generalizing before with
  | nil => rfl
  | cons c cs ih =>
    rw [List.cons_append, lowerBetween, lowerBetween, ih, List.append_assoc, List.append_assoc,
      List.reverse_cons, List.append_assoc]
    rfl

theorem lowerAfter_eq (before cs : List Char) :
    lowerAfter before cs = lowerBetween before cs [] := by
  induction cs generalizing before with
  | nil => rfl
  | cons c cs ih =>
    rw [lowerAfter, lowerBetween, ih, List.append_nil]
    rfl

theorem lower_eq (cs : List Char) : lower cs = lowerBetween [] cs [] :=
  lowerAfter_eq [] cs

/-- **The lower-case form of a text in parts.** -/
theorem lower_append (before cs after : List Char) :
    lower (before ++ cs ++ after) =
      lowerBetween [] before (cs ++ after) ++ lowerBetween before.reverse cs after ++
        lowerBetween (cs.reverse ++ before.reverse) after [] := by
  rw [lower_eq, lowerBetween_append, lowerBetween_append, List.append_nil, List.append_nil,
    List.append_nil, List.reverse_append]

/-- The lower-case form of a part is the same wherever all its capital sigmas are. -/
theorem lowerBetween_congr
    (h : ∀ ps qs, cs = ps ++ '\u03a3' :: qs →
      endsWord (ps.reverse ++ before) (qs ++ after) =
        endsWord (ps.reverse ++ before') (qs ++ after')) :
    lowerBetween before cs after = lowerBetween before' cs after' := by
  induction cs generalizing before before' with
  | nil => rfl
  | cons c cs ih =>
    rw [lowerBetween, lowerBetween]
    have tail : lowerBetween (c :: before) cs after = lowerBetween (c :: before') cs after' :=
      ih fun ps qs hcs => by
        simpa using h (c :: ps) qs (by rw [hcs, List.cons_append])
    have head : lowerImage c (endsWord before (cs ++ after)) =
        lowerImage c (endsWord before' (cs ++ after')) := by
      by_cases hc : c = '\u03a3'
      · exact congrArg (lowerImage c) (h [] cs (by rw [hc, List.nil_append]))
      · exact lowerImage_eq hc _ _
    rw [head, tail]

/-- Without a sigma and the one letter that becomes two characters, lower case goes character by
character. -/
theorem lower_eq_map (h : ∀ c ∈ cs, c ≠ '\u0130' ∧ c ≠ '\u03a3') : lower cs = cs.map lowerChar := by
  have each (before : List Char) : lowerBetween before cs [] = cs.map lowerChar := by
    induction cs generalizing before with
    | nil => rfl
    | cons c cs ih =>
      obtain ⟨hdotted, hsigma⟩ := h c List.mem_cons_self
      rw [lowerBetween, lowerImage_single hdotted hsigma,
        ih fun d hd => h d (List.mem_cons_of_mem c hd)]
      rfl
  rw [lower_eq, each]

/-! ### Open sigmas -/

/-- All characters are passed over when the end of a word is looked for. -/
def IsPassedOver (cs : List Char) : Prop :=
  ∀ c ∈ cs, inBounds ignorableBounds c.toNat

/-- The form of some capital sigma depends on what stands around the text: what is before it in the
text decides nothing and it may be the last letter, or it is the last letter and what is after it in
the text decides nothing. -/
def HasOpenSigma (cs : List Char) : Prop :=
  ∃ ps qs, cs = ps ++ '\u03a3' :: qs ∧
    (IsPassedOver ps ∧ startsCased qs = false ∨ startsCased ps.reverse ∧ IsPassedOver qs)

theorem startsCased_append_of_passedOver (h : IsPassedOver cs) (ds : List Char) :
    startsCased (cs ++ ds) = startsCased ds := by
  induction cs with
  | nil => rfl
  | cons c cs ih =>
    rw [List.cons_append, startsCased, if_pos (h c List.mem_cons_self)]
    exact ih fun d hd => h d (List.mem_cons_of_mem c hd)

theorem startsCased_of_passedOver (h : IsPassedOver cs) : startsCased cs = false := by
  have := startsCased_append_of_passedOver h []
  rwa [List.append_nil] at this

theorem startsCased_append (h : ¬IsPassedOver cs) (ds : List Char) :
    startsCased (cs ++ ds) = startsCased cs := by
  induction cs with
  | nil => exact absurd (fun _ hc => nomatch hc) h
  | cons c cs ih =>
    rw [List.cons_append, startsCased, startsCased]
    split
    · next hc =>
      refine ih fun rest => h fun d hd => ?_
      rcases List.mem_cons.mp hd with rfl | hd
      · exact hc
      · exact rest d hd
    · rfl

theorem isPassedOver_reverse : IsPassedOver cs.reverse ↔ IsPassedOver cs := by
  simp only [IsPassedOver, List.mem_reverse]

/-- Without an open sigma, the lower-case form is the same everywhere. -/
theorem lowerBetween_eq_lower (closed : ¬HasOpenSigma cs) (before after : List Char) :
    lowerBetween before cs after = lower cs := by
  rw [lower_eq]
  refine lowerBetween_congr fun ps qs hcs => ?_
  have notFront : ¬(IsPassedOver ps ∧ startsCased qs = false) :=
    fun h => closed ⟨ps, qs, hcs, .inl h⟩
  have notBack : ¬(startsCased ps.reverse ∧ IsPassedOver qs) :=
    fun h => closed ⟨ps, qs, hcs, .inr h⟩
  rw [List.append_nil, List.append_nil, endsWord, endsWord]
  by_cases hps : IsPassedOver ps
  · -- a letter follows in the text
    have follows : startsCased qs := by
      by_contra h
      exact notFront ⟨hps, Bool.eq_false_iff.mpr h⟩
    have hqs : ¬IsPassedOver qs := fun h => by
      rw [startsCased_of_passedOver h] at follows
      cases follows
    rw [startsCased_append hqs, follows, Bool.not_true, Bool.and_false, Bool.and_false]
  · rw [startsCased_append (mt isPassedOver_reverse.mp hps)]
    cases hcased : startsCased ps.reverse with
    | false => rfl
    | true => rw [startsCased_append fun h => notBack ⟨hcased, h⟩]

/-! ### Counting sigmas -/

/-- A sigma that takes its final form is one final sigma more and one other sigma less. -/
theorem count_lowerImage_le (c : Char) {final final' : Bool} (h : final → final') :
    (lowerImage c final').count '\u03c3' ≤ (lowerImage c final).count '\u03c3' ∧
      (lowerImage c final).count '\u03c2' ≤ (lowerImage c final').count '\u03c2' := by
  by_cases hc : c = '\u03a3'
  · subst hc
    revert final final'
    decide
  · rw [lowerImage_eq hc final' final]
    exact ⟨Nat.le_refl _, Nat.le_refl _⟩

theorem endsWord_of_imp (hbefore : startsCased before → startsCased before')
    (hafter : startsCased after' → startsCased after) (h : endsWord before after) :
    endsWord before' after' := by
  rw [endsWord, Bool.and_eq_true, Bool.not_eq_true'] at h ⊢
  refine ⟨hbefore h.1, Bool.eq_false_iff.mpr fun follows => ?_⟩
  rw [hafter follows] at h
  cases h.2

theorem startsCased_append_of_imp (h : startsCased before → startsCased before')
    (cs : List Char) : startsCased (cs ++ before) → startsCased (cs ++ before') := by
  by_cases hcs : IsPassedOver cs
  · rw [startsCased_append_of_passedOver hcs, startsCased_append_of_passedOver hcs]
    exact h
  · rw [startsCased_append hcs, startsCased_append hcs]
    exact id

/-- Where more sigmas take their final form, there are more final sigmas and fewer others. -/
theorem count_lowerBetween_le (hbefore : startsCased before → startsCased before')
    (hafter : startsCased after' → startsCased after) (cs : List Char) :
    (lowerBetween before' cs after').count '\u03c3' ≤
        (lowerBetween before cs after).count '\u03c3' ∧
      (lowerBetween before cs after).count '\u03c2' ≤
        (lowerBetween before' cs after').count '\u03c2' := by
  induction cs generalizing before before' with
  | nil => exact ⟨Nat.le_refl _, Nat.le_refl _⟩
  | cons c cs ih =>
    have head := count_lowerImage_le c
      (endsWord_of_imp hbefore (startsCased_append_of_imp hafter cs))
    have tail := ih (startsCased_append_of_imp hbefore [c])
    rw [lowerBetween, lowerBetween, List.count_append, List.count_append, List.count_append,
      List.count_append]
    exact ⟨Nat.add_le_add head.1 tail.1, Nat.add_le_add head.2 tail.2⟩

/-- With one sigma that takes its final form in one place and not in the other, there are strictly
more final sigmas and strictly fewer others. -/
theorem count_lowerBetween_lt (hbefore : startsCased before → startsCased before')
    (hafter : startsCased after' → startsCased after) {ps qs : List Char}
    (hcs : cs = ps ++ '\u03a3' :: qs) (not : endsWord (ps.reverse ++ before) (qs ++ after) = false)
    (ends : endsWord (ps.reverse ++ before') (qs ++ after') = true) :
    (lowerBetween before' cs after').count '\u03c3' <
        (lowerBetween before cs after).count '\u03c3' ∧
      (lowerBetween before cs after).count '\u03c2' <
        (lowerBetween before' cs after').count '\u03c2' := by
  have front := count_lowerBetween_le hbefore
    (startsCased_append_of_imp hafter ('\u03a3' :: qs)) ps
  have back := count_lowerBetween_le
    (startsCased_append_of_imp (startsCased_append_of_imp hbefore ps.reverse) ['\u03a3']) hafter qs
  have final : (lowerImage '\u03a3' true).count '\u03c3' = 0 ∧
      (lowerImage '\u03a3' true).count '\u03c2' = 1 ∧
      (lowerImage '\u03a3' false).count '\u03c3' = 1 ∧
      (lowerImage '\u03a3' false).count '\u03c2' = 0 := by decide
  simp only [List.singleton_append] at back
  rw [hcs, lowerBetween_append, lowerBetween_append, lowerBetween, lowerBetween, not, ends]
  simp only [List.count_append]
  omega

/-- The letter a is no sigma. -/
theorem count_lowerBetween_letter (before after : List Char) :
    (lowerBetween before ['a'] after).count '\u03c3' = 0 ∧
      (lowerBetween before ['a'] after).count '\u03c2' = 0 := by
  rw [lowerBetween, lowerImage_eq (by decide) _ false, lowerBetween]
  decide

/-- In front of a text with an open sigma, or behind it, a letter changes the form of the sigma. -/
theorem exists_missed (h : HasOpenSigma cs) :
    ∃ before after, ¬lower cs <:+: lower (before ++ cs ++ after) := by
  have letter : startsCased [] → startsCased ['a'] := fun h => absurd h Bool.false_ne_true
  obtain ⟨ps, qs, hcs, ⟨front, last⟩ | ⟨follows, back⟩⟩ := h
  · refine ⟨['a'], [], fun occurs => ?_⟩
    have not : endsWord (ps.reverse ++ []) (qs ++ []) = false := by
      rw [List.append_nil, endsWord, startsCased_of_passedOver (isPassedOver_reverse.mpr front)]
      rfl
    have ends : endsWord (ps.reverse ++ ['a']) (qs ++ []) = true := by
      rw [List.append_nil, endsWord,
        startsCased_append_of_passedOver (isPassedOver_reverse.mpr front), last]
      decide
    have fewer := (count_lowerBetween_lt letter id hcs not ends).1
    have found := occurs.count_le '\u03c3'
    rw [lower_append, List.count_append, List.count_append, (count_lowerBetween_letter [] _).1,
      lower_eq] at found
    exact Nat.lt_irrefl _ (Nat.lt_of_lt_of_le fewer (by simpa [lowerBetween] using found))
  · refine ⟨[], ['a'], fun occurs => ?_⟩
    have not : endsWord (ps.reverse ++ []) (qs ++ ['a']) = false := by
      rw [endsWord, startsCased_append_of_passedOver back]
      exact Bool.and_false _
    have ends : endsWord (ps.reverse ++ []) (qs ++ []) = true := by
      rw [List.append_nil, List.append_nil, endsWord, follows, startsCased_of_passedOver back]
      rfl
    have fewer := (count_lowerBetween_lt id letter hcs not ends).2
    have found := occurs.count_le '\u03c2'
    rw [lower_append, List.count_append, List.count_append, (count_lowerBetween_letter _ _).2,
      lower_eq] at found
    exact Nat.lt_irrefl _ (Nat.lt_of_lt_of_le fewer (by simpa [lowerBetween] using found))

/-- **A text is found in all texts that contain it**, case being ignored, exactly if it has no open
sigma. -/
theorem lower_infix_iff :
    (∀ ds, cs <:+: ds → lower cs <:+: lower ds) ↔ ¬HasOpenSigma cs := by
  constructor
  · intro found opens
    obtain ⟨before, after, missed⟩ := exists_missed opens
    exact missed (found _ ⟨before, after, rfl⟩)
  · rintro closed _ ⟨before, after, rfl⟩
    rw [lower_append, lowerBetween_eq_lower closed]
    exact ⟨_, _, rfl⟩

end LogAlert.Text
