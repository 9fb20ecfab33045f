import LogAlert.Match.Answer
import Mathlib.Data.List.Forall2

/-!
# What source patterns describe

The matcher of source patterns tries the places of a text one after the other, and behind each
literal the gaps from the shortest on.  Here the same texts are described by how they are written:
anything, a spelling of the first literal, for each further literal a gap in one line and a spelling
of it, and anything.  Spellings may differ in the case of letters.

## Main definitions

* `Pattern.Spells` : a text that is a literal up to the case of letters.
* `Pattern.Begins`, `Pattern.Occurs` : literals with gaps between them, at the front of a text and
  anywhere in it.

## Main results

* `Text.eq_splitOn_iff` : a text is divided at a character in one manner.
* `Pattern.afterLiteral?_eq_some_iff`, `Pattern.afterGap_iff`, `Pattern.anywhere_iff`,
  `Pattern.partsMatch_iff` : what each part of the matcher accepts.
* `Pattern.source_matches_iff` : which texts and records a source pattern matches.
-/

namespace LogAlert

/-! ### Dividing a text at a character -/

namespace Text

theorem splitOn_eq (sep : Char) (cs : List Char) : splitOn sep cs = cs.splitOn sep := by
  induction cs with
  | nil => rfl
  | cons c cs ih =>
    obtain ⟨part, parts, hparts⟩ := List.exists_cons_of_ne_nil (List.splitOn_ne_nil sep cs)
    rw [splitOn, ih, List.splitOn_cons_eq_if_modifyHead, hparts]
    rfl

theorem join_eq (sep : List Char) (parts : List (List Char)) :
    join sep parts = sep.intercalate parts := by
  induction parts with
  | nil => rfl
  | cons part parts ih =>
    cases parts with
    | nil => rw [join, List.intercalate_singleton]
    | cons next parts =>
      rw [join, ih, List.intercalate_cons_cons, List.append_assoc]
      exact List.cons_ne_nil _ _

theorem sep_not_mem_splitOn {sep : Char} {cs part : List Char} (h : part ∈ cs.splitOn sep) :
    sep ∉ part := by
  induction cs generalizing part with
  | nil =>
    rw [List.splitOn_nil, List.mem_singleton] at h
    rw [h]
    exact List.not_mem_nil
  | cons c cs ih =>
    obtain ⟨first, parts, hparts⟩ := List.exists_cons_of_ne_nil (List.splitOn_ne_nil sep cs)
    rw [hparts] at ih
    rw [List.splitOn_cons_eq_if_modifyHead, hparts] at h
    split at h
    · rcases List.mem_cons.mp h with rfl | h
      · exact List.not_mem_nil
      · exact ih h
    · next other =>
      rcases List.mem_cons.mp h with rfl | h
      · have hfirst := ih List.mem_cons_self
        rw [List.mem_cons, not_or]
        exact ⟨fun heq => other (beq_iff_eq.mpr heq.symm), hfirst⟩
      · exact ih (List.mem_cons_of_mem _ h)

/-- The parts of a text are those that do not hold the separator and are the text when they are
joined with it. -/
theorem eq_splitOn_iff {sep : Char} {cs : List Char} {parts : List (List Char)} :
    parts = splitOn sep cs ↔ parts ≠ [] ∧ (∀ part ∈ parts, sep ∉ part) ∧ join [sep] parts = cs := by
  rw [splitOn_eq, join_eq]
  constructor
  · rintro rfl
    exact ⟨List.splitOn_ne_nil sep cs, fun part => sep_not_mem_splitOn,
      List.intercalate_splitOn sep⟩
  · rintro ⟨nonempty, parts_free, rfl⟩
    exact (List.splitOn_intercalate sep parts_free nonempty).symm

end Text

namespace Pattern

variable {literal cs rest : List Char} {literals : List (List Char)} {f : List Char → Bool}

/-! ### Literals and gaps -/

/-- The text is the literal, letter by letter, when case is ignored. -/
def Spells (literal cs : List Char) : Prop :=
  List.Forall₂ (fun p c => Text.sameLetter p c) literal cs

theorem afterLiteral?_eq_some_iff :
    afterLiteral? literal cs = some rest ↔ ∃ front, Spells literal front ∧ cs = front ++ rest := by
  induction literal generalizing cs with
  | nil =>
    rw [afterLiteral?, Option.some.injEq]
    constructor
    · rintro rfl
      exact ⟨[], .nil, rfl⟩
    · rintro ⟨front, ⟨⟩, rfl⟩
      rfl
  | cons p literal ih =>
    cases cs with
    | nil =>
      refine iff_of_false nofun ?_
      rintro ⟨front, ⟨⟩, heq⟩
      cases heq
    | cons c cs =>
      rw [afterLiteral?]
      split
      · next same =>
        rw [ih]
        constructor
        · rintro ⟨front, spelled, rfl⟩
          exact ⟨c :: front, .cons same spelled, rfl⟩
        · rintro ⟨front, spelled, heq⟩
          cases spelled with
          | cons _ spelled => exact ⟨_, spelled, (List.cons.inj heq).2⟩
      · next other =>
        refine iff_of_false nofun ?_
        rintro ⟨front, spelled, heq⟩
        cases spelled with
        | cons same _ => exact other ((List.cons.inj heq).1 ▸ same)

/-- A text that is not empty is divided in front of its first character or behind it. -/
theorem exists_division_cons {c : Char} {p : List Char → List Char → Prop} :
    (∃ front rest, c :: cs = front ++ rest ∧ p front rest) ↔
      p [] (c :: cs) ∨ ∃ front rest, cs = front ++ rest ∧ p (c :: front) rest := by
  constructor
  · rintro ⟨front, rest, heq, h⟩
    rcases List.cons_eq_append_iff.mp heq with ⟨rfl, rfl⟩ | ⟨front, rfl, rfl⟩
    · exact .inl h
    · exact .inr ⟨front, rest, rfl, h⟩
  · rintro (h | ⟨front, rest, rfl, h⟩)
    · exact ⟨[], c :: cs, rfl, h⟩
    · exact ⟨c :: front, rest, rfl, h⟩

theorem exists_division_nil {p : List Char → List Char → Prop} :
    (∃ front rest, [] = front ++ rest ∧ p front rest) ↔ p [] [] := by
  constructor
  · rintro ⟨front, rest, heq, h⟩
    obtain ⟨rfl, rfl⟩ := List.append_eq_nil_iff.mp heq.symm
    exact h
  · exact fun h => ⟨[], [], rfl, h⟩

theorem afterGap_iff : afterGap f cs ↔ ∃ gap rest, cs = gap ++ rest ∧ '\n' ∉ gap ∧ f rest := by
  induction cs with
  | nil =>
    rw [exists_division_nil, afterGap]
    exact (and_iff_right List.not_mem_nil).symm
  | cons c cs ih =>
    rw [exists_division_cons, afterGap, Bool.or_eq_true, Bool.and_eq_true, bne_iff_ne, ih]
    refine or_congr (and_iff_right List.not_mem_nil).symm ?_
    simp only [List.mem_cons, not_or, eq_comm (a := '\n')]
    constructor
    · rintro ⟨line, gap, rest, hcs, hgap, h⟩
      exact ⟨gap, rest, hcs, ⟨line, hgap⟩, h⟩
    · rintro ⟨gap, rest, hcs, ⟨line, hgap⟩, h⟩
      exact ⟨line, gap, rest, hcs, hgap, h⟩

theorem anywhere_iff : anywhere f cs ↔ ∃ before rest, cs = before ++ rest ∧ f rest := by
  induction cs with
  | nil => rw [exists_division_nil, anywhere]
  | cons c cs ih => rw [exists_division_cons, anywhere, Bool.or_eq_true, ih]

/-! ### Patterns -/

/-- The text begins with spellings of the literals, one after the other.  Before each but the first
there may be a gap that stays in one line. -/
def Begins (literals : List (List Char)) (cs : List Char) : Prop :=
  ∃ (first : List Char) (later : List (List Char × List Char)) (after : List Char),
    cs = first ++ ((later.flatMap fun part => part.1 ++ part.2) ++ after) ∧
    (∀ part ∈ later, '\n' ∉ part.1) ∧ List.Forall₂ Spells literals (first :: later.map (·.2))

/-- The text begins so at some place. -/
def Occurs (literals : List (List Char)) (cs : List Char) : Prop :=
  ∃ before rest, cs = before ++ rest ∧ Begins literals rest

theorem begins_singleton_iff :
    Begins [literal] cs ↔ ∃ front rest, Spells literal front ∧ cs = front ++ rest := by
  constructor
  · rintro ⟨first, later, after, rfl, -, spelled⟩
    exact ⟨first, _, (List.forall₂_cons.mp spelled).1, rfl⟩
  · rintro ⟨front, rest, spelled, rfl⟩
    exact ⟨front, [], rest, rfl, nofun, .cons spelled .nil⟩

/-- Behind the first literal and a gap, the text begins with the other literals. -/
theorem begins_cons_iff (nonempty : literals ≠ []) :
    Begins (literal :: literals) cs ↔ ∃ front gap rest, Spells literal front ∧
      cs = front ++ (gap ++ rest) ∧ '\n' ∉ gap ∧ Begins literals rest := by
  constructor
  · rintro ⟨first, later, after, rfl, lines, spelled⟩
    obtain ⟨hfirst, hlater⟩ := List.forall₂_cons.mp spelled
    cases later with
    | nil =>
      cases hlater
      exact absurd rfl nonempty
    | cons part later =>
      obtain ⟨line, lines⟩ := List.forall_mem_cons.mp lines
      refine ⟨first, part.1, _, hfirst, ?_, line, part.2, later, after, rfl, lines, hlater⟩
      rw [List.flatMap_cons, List.append_assoc, List.append_assoc]
  · rintro ⟨front, gap, rest, hfront, rfl, line, first, later, after, rfl, lines, spelled⟩
    refine ⟨front, (gap, first) :: later, after, ?_, List.forall_mem_cons.mpr ⟨line, lines⟩,
      .cons hfront spelled⟩
    rw [List.flatMap_cons, List.append_assoc, List.append_assoc]

/-- The matcher accepts what begins with the literals.  A literal can be left at one place only, so
that nothing but the gaps is to be tried. -/
theorem partsMatch_iff (nonempty : literals ≠ []) : partsMatch literals cs ↔ Begins literals cs := by
  induction literals generalizing cs with
  | nil => exact absurd rfl nonempty
  | cons literal literals ih =>
    have fits : partsMatch (literal :: literals) cs ↔ ∃ rest,
        afterLiteral? literal cs = some rest ∧
          (literals.isEmpty ∨ afterGap (partsMatch literals) rest) := by
      rw [partsMatch]
      cases afterLiteral? literal cs with
      | none => simp
      | some rest => cases literals <;> simp
    rw [fits]
    cases literals with
    | nil =>
      simp only [afterLiteral?_eq_some_iff, List.isEmpty_nil, true_or, and_true,
        begins_singleton_iff]
      exact exists_comm
    | cons next literals =>
      have hnext : next :: literals ≠ [] := List.cons_ne_nil _ _
      simp only [afterLiteral?_eq_some_iff, afterGap_iff, List.isEmpty_cons, Bool.false_eq_true,
        false_or, begins_cons_iff hnext]
      constructor
      · rintro ⟨_, ⟨front, spelled, rfl⟩, gap, rest, rfl, line, hrest⟩
        exact ⟨front, gap, rest, spelled, rfl, line, (ih hnext).mp hrest⟩
      · rintro ⟨front, gap, rest, spelled, rfl, line, hrest⟩
        exact ⟨_, ⟨front, spelled, rfl⟩, gap, rest, rfl, line, (ih hnext).mpr hrest⟩

theorem occursIn_iff (pattern text : String) :
    occursIn pattern text ↔ Occurs (Text.splitOn '*' pattern.toList) text.toList := by
  have nonempty : Text.splitOn '*' pattern.toList ≠ [] := (Text.eq_splitOn_iff.mp rfl).1
  rw [occursIn, anywhere_iff]
  simp only [partsMatch_iff nonempty]
  rfl

/-- A gap does not reach into the next line. -/
example : occursIn "d*K" "/dev/disk" = true ∧ occursIn "d*K" "d\nk" = false := by
  decide +kernel

/-- **What a source pattern matches.**  The stars of the pattern cut it into literals, which hold no
star and are the pattern when they are joined with stars.  The pattern matches a text exactly if the
text is anything, a spelling of the first literal, for each further literal a gap without a line feed
and a spelling of it, and anything.  A record answers a filter with the pattern exactly if its source
is such a text, or the field for the source in its metadata, if this is a text. -/
theorem source_matches_iff (pattern : String) :
    (∀ literals, literals = Text.splitOn '*' pattern.toList ↔
      literals ≠ [] ∧ (∀ literal ∈ literals, '*' ∉ literal) ∧
        Text.join ['*'] literals = pattern.toList) ∧
      (∀ text : String, occursIn pattern text ↔
        Occurs (Text.splitOn '*' pattern.toList) text.toList) ∧
      ∀ r : Record, ∃ answer, Token.holds ⟨false, .source pattern⟩ r = .ok answer ∧
        (answer ↔ Occurs (Text.splitOn '*' pattern.toList) r.source.toList ∨
          ∃ source, Json.field? r.metadata "source" = some (.str source) ∧
            Occurs (Text.splitOn '*' pattern.toList) source.toList) := by
  refine ⟨fun literals => Text.eq_splitOn_iff, occursIn_iff pattern, fun r => ?_⟩
  refine ⟨_, congrArg Except.ok (Bool.bne_false _), ?_⟩
  simp only [← occursIn_iff]
  rw [Match.sourceMatches, Bool.or_eq_true]
  refine or_congr_right ?_
  split
  · next source found => simp [found]
  · next other =>
    refine iff_of_false Bool.false_ne_true ?_
    rintro ⟨source, found, -⟩
    exact other source found

end Pattern

end LogAlert
