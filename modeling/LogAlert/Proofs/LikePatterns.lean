import LogAlert.Query.Like
import Mathlib.Data.List.Infix

/-!
# Patterns that stand for their term

Backslashes and wildcards of a term are escaped one kind after the other, and every step sees the
backslashes that the steps before have added.  It comes to the same as one step: each of these
characters has one backslash put before it, and no other character has.  So the term can be read
from its pattern, and the pattern matches the texts that contain the term.

## Main definitions

* `Query.likeMarks` : the characters with a meaning of their own in a pattern.
* `Query.Escapes` : a text and the same text with its marks escaped.
* `Query.unescape?` : the text that an escaped one stands for.
* `Query.LikeMatches` : the texts that a pattern matches.

## Main results

* `Query.escapes_iff` : escaping in three steps puts one backslash before each mark.
* `Query.escapeLike_exact` : the pattern of a term has the escaped term in it, and no other term has
  this pattern.
* `Query.likeMatches_escapeLike_iff` : the pattern of a term matches the texts that contain it.
-/

namespace LogAlert.Query

/-- The characters with a meaning of their own in a pattern: the backslash and the wildcards. -/
def likeMarks : List Char :=
  ['\\', '%', '_']

/-- The second text is the first one with one backslash put before every mark, and before no other
character. -/
inductive Escapes : List Char → List Char → Prop where
  | nil : Escapes [] []
  | plain {c : Char} {cs es : List Char} (h : c ∉ likeMarks) (rest : Escapes cs es) :
      Escapes (c :: cs) (c :: es)
  | mark {c : Char} {cs es : List Char} (h : c ∈ likeMarks) (rest : Escapes cs es) :
      Escapes (c :: cs) ('\\' :: c :: es)

/-- The text that an escaped one stands for, read from left to right: the character behind a
backslash stands for itself.  A wildcard without a backslash is refused, and so is a backslash with
nothing behind it. -/
def unescape? : List Char → Option (List Char)
  | [] => some []
  | '\\' :: c :: cs => (unescape? cs).map (c :: ·)
  | c :: cs => if c ∈ likeMarks then none else (unescape? cs).map (c :: ·)

variable {c : Char} {cs es : List Char}

/-! ### Escaping -/

theorem escapeMark_cons (mark c : Char) (cs : List Char) :
    escapeMark mark (c :: cs) =
      if c = mark then '\\' :: c :: escapeMark mark cs else c :: escapeMark mark cs := by
  rw [escapeMark, Text.replace, List.flatMap_cons]
  by_cases h : c = mark
  · rw [if_pos (beq_iff_eq.mpr h), if_pos h, h]
    rfl
  · rw [if_neg (mt beq_iff_eq.mp h), if_neg h]
    rfl

/-- The steps one after the other escape each character once. -/
theorem escapeMarks_cons (c : Char) (cs : List Char) :
    escapeMarks (c :: cs) =
      if c ∈ likeMarks then '\\' :: c :: escapeMarks cs else c :: escapeMarks cs := by
  have hpercent : '\\' ≠ '%' := by decide
  have hunderscore : '\\' ≠ '_' := by decide
  by_cases hmark : c ∈ likeMarks
  · rw [if_pos hmark]
    -- the later steps leave an added backslash and the mark behind it alone
    have hcases : c = '\\' ∨ c = '%' ∨ c = '_' := by simpa [likeMarks] using hmark
    rcases hcases with rfl | rfl | rfl <;>
      simp [escapeMarks, escapeMark_cons, hpercent, hunderscore]
  · rw [if_neg hmark]
    simp only [likeMarks, List.mem_cons, List.not_mem_nil, or_false, not_or] at hmark
    obtain ⟨backslash, percent, underscore⟩ := hmark
    simp only [escapeMarks, escapeMark_cons, if_neg backslash, if_neg percent, if_neg underscore]

/-- **Escaping in three steps** puts one backslash before each mark, and before nothing else. -/
theorem escapes_iff : Escapes cs es ↔ es = escapeMarks cs := by
  constructor
  · intro h
    induction h with
    | nil => rfl
    | plain h _ ih => rw [escapeMarks_cons, if_neg h, ih]
    | mark h _ ih => rw [escapeMarks_cons, if_pos h, ih]
  · rintro rfl
    induction cs with
    | nil => exact .nil
    | cons c cs ih =>
      rw [escapeMarks_cons]
      by_cases h : c ∈ likeMarks
      · rw [if_pos h]
        exact .mark h ih
      · rw [if_neg h]
        exact .plain h ih

theorem unescape?_of_not_mem (h : c ∉ likeMarks) (cs : List Char) :
    unescape? (c :: cs) = (unescape? cs).map (c :: ·) := by
  rw [unescape?, if_neg h]
  rintro _ _ rfl -
  exact h (by decide)

/-- **Reading gives the text back.** -/
theorem Escapes.unescape? (h : Escapes cs es) : unescape? es = some cs := by
  induction h with
  | nil => rfl
  | plain h _ ih => rw [unescape?_of_not_mem h, ih, Option.map_some]
  | mark _ _ ih => rw [Query.unescape?, ih, Option.map_some]

/-- **The pattern of a term** is the term between two wildcards, with one backslash before each of
its own backslashes and wildcards and before nothing else.  What stands between the wildcards is
read to its end without an unescaped wildcard, and stands for the term; so no other term has this
pattern. -/
theorem escapeLike_exact :
    (∀ term, ∃ es, escapeLike term = '%' :: (es ++ ['%']) ∧ Escapes term es ∧
      unescape? es = some term) ∧ Function.Injective escapeLike := by
  have escapes (term : List Char) : Escapes term (escapeMarks term) := escapes_iff.mpr rfl
  refine ⟨fun term => ⟨_, rfl, escapes term, (escapes term).unescape?⟩, fun term term' same => ?_⟩
  have hmarks : escapeMarks term = escapeMarks term' :=
    List.append_cancel_right (List.cons_injective same)
  have hread := (escapes term).unescape?
  rw [hmarks, (escapes term').unescape?] at hread
  exact (Option.some.inj hread).symm

/-! ### Matching -/

/-- The texts that a pattern matches: `%` stands for any text, `_` for any character, and every
other character for itself, and so does a character behind a backslash. -/
inductive LikeMatches : List Char → List Char → Prop where
  | nil : LikeMatches [] []
  | anything {ps cs : List Char} (skipped : List Char) (rest : LikeMatches ps cs) :
      LikeMatches ('%' :: ps) (skipped ++ cs)
  | anyone {ps cs : List Char} (c : Char) (rest : LikeMatches ps cs) :
      LikeMatches ('_' :: ps) (c :: cs)
  | escaped {ps cs : List Char} (c : Char) (rest : LikeMatches ps cs) :
      LikeMatches ('\\' :: c :: ps) (c :: cs)
  | plain {ps cs : List Char} {c : Char} (h : c ∉ likeMarks) (rest : LikeMatches ps cs) :
      LikeMatches (c :: ps) (c :: cs)

variable {ps text : List Char}

theorem likeMatches_plain_iff (h : c ∉ likeMarks) :
    LikeMatches (c :: ps) text ↔ ∃ cs, text = c :: cs ∧ LikeMatches ps cs := by
  constructor
  · intro matched
    cases matched with
    | anything => exact absurd (by decide) h
    | anyone => exact absurd (by decide) h
    | escaped => exact absurd (by decide) h
    | plain _ rest => exact ⟨_, rfl, rest⟩
  · rintro ⟨cs, rfl, rest⟩
    exact .plain h rest

theorem likeMatches_escaped_iff :
    LikeMatches ('\\' :: c :: ps) text ↔ ∃ cs, text = c :: cs ∧ LikeMatches ps cs := by
  constructor
  · intro matched
    cases matched with
    | escaped _ rest => exact ⟨_, rfl, rest⟩
    | plain h => exact absurd (by decide) h
  · rintro ⟨cs, rfl, rest⟩
    exact .escaped c rest

/-- A wildcard for any text in front: the pattern behind it matches some end of the text. -/
theorem likeMatches_anything_iff :
    LikeMatches ('%' :: ps) text ↔ ∃ rest, rest <:+ text ∧ LikeMatches ps rest := by
  constructor
  · intro matched
    cases matched with
    | anything skipped rest => exact ⟨_, List.suffix_append .., rest⟩
    | plain h => exact absurd (by decide) h
  · rintro ⟨rest, ⟨skipped, rfl⟩, matched⟩
    exact .anything skipped matched

/-- An escaped text stands for itself alone. -/
theorem Escapes.likeMatches_append_iff (h : Escapes cs es) :
    LikeMatches (es ++ ps) text ↔ ∃ rest, text = cs ++ rest ∧ LikeMatches ps rest := by
  -- one character of the text in front of what an escaped rest stands for
  have front {c : Char} {cs es text : List Char}
      (ih : ∀ {text}, LikeMatches (es ++ ps) text ↔
        ∃ rest, text = cs ++ rest ∧ LikeMatches ps rest) :
      (∃ more, text = c :: more ∧ LikeMatches (es ++ ps) more) ↔
        ∃ rest, text = c :: cs ++ rest ∧ LikeMatches ps rest := by
    constructor
    · rintro ⟨more, rfl, matched⟩
      obtain ⟨rest, rfl, hrest⟩ := ih.mp matched
      exact ⟨rest, rfl, hrest⟩
    · rintro ⟨rest, rfl, hrest⟩
      exact ⟨cs ++ rest, rfl, ih.mpr ⟨rest, rfl, hrest⟩⟩
  induction h generalizing text with
  | nil => simp
  | plain h _ ih => rw [List.cons_append, likeMatches_plain_iff h, front ih]
  | mark _ _ ih => rw [List.cons_append, List.cons_append, likeMatches_escaped_iff, front ih]

/-- **The pattern of a term matches the texts that contain it**, and no others. -/
theorem likeMatches_escapeLike_iff (term text : List Char) :
    LikeMatches (escapeLike term) text ↔ term <:+: text := by
  have escapes : Escapes term (escapeMarks term) := escapes_iff.mpr rfl
  have any (rest : List Char) : LikeMatches ['%'] rest :=
    likeMatches_anything_iff.mpr ⟨[], List.nil_suffix, .nil⟩
  rw [escapeLike, likeMatches_anything_iff]
  constructor
  · rintro ⟨behind, ⟨front, rfl⟩, matched⟩
    obtain ⟨rest, rfl, -⟩ := escapes.likeMatches_append_iff.mp matched
    exact ⟨front, rest, List.append_assoc ..⟩
  · rintro ⟨front, rest, rfl⟩
    refine ⟨term ++ rest, ⟨front, (List.append_assoc ..).symm⟩, ?_⟩
    exact escapes.likeMatches_append_iff.mpr ⟨rest, rfl, any rest⟩

end LogAlert.Query
