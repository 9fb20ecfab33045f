import LogAlert.Proofs.Scanning

/-!
# The grammar of queries

The scanner computes how much of a text each shape takes, without trying shorter parts again.  Here
the same lexemes are described by what may stand in a text: every shape has its words, a lexeme is
the longest word of the first shape that has one at its place, and a character is passed over only
where no shape has a word.  A text is divided in this way in exactly one manner, and this is how the
scanner divides it.

## Main definitions

* `Lexeme.Shape.Word`, `Lexeme.Shape.Begins` : the words of a shape, and where one begins.
* `Lexeme.Taken`, `Lexeme.Passed` : what is a lexeme, and what is passed over.
* `Lexeme.Divided` : a text divided into lexemes and gaps.

## Main results

* `Lexeme.taken_iff`, `Lexeme.first?_eq_none_iff` : one place of a text.
* `Lexeme.exists_divided`, `Lexeme.Divided.unique` : a text is divided in exactly one manner.
* `Lexeme.tokenize_divides` : the lexemes of a query.
-/

namespace LogAlert.Lexeme

variable {s : Shape} {b : Body} {l : Lexeme} {cs run gap rest last : List Char} {n : Nat}
  {parts : List (List Char × Lexeme)}

/-! ### Words -/

/-- The words of a shape: the spellings of its body, after a minus sign if it has one. -/
inductive Shape.Word : Shape → List Char → Prop where
  | negated {b : Body} {cs : List Char} (body : b.Spelled cs) : Shape.Word ⟨true, b⟩ ('-' :: cs)
  | plain {b : Body} {cs : List Char} (body : b.Spelled cs) : Shape.Word ⟨false, b⟩ cs

/-- A word of the shape stands at the front of the text. -/
def Shape.Begins (s : Shape) (cs : List Char) : Prop :=
  ∃ word, s.Word word ∧ word <+: cs

theorem Shape.Spelled.word (h : s.Spelled cs) : s.Word cs := by
  cases h with
  | negated body => exact .negated body
  | plain body _ => exact .plain body

theorem Shape.Word.ne_nil (h : s.Word cs) : cs ≠ [] := by
  cases h with
  | negated body => exact List.cons_ne_nil _ _
  | plain body => exact body.framed.nonempty

/-- At the front of a run, at least the run is taken. -/
theorem le_runLength? (hrun : IsRun run) (rest : List Char) :
    ∃ n, runLength? (run ++ rest) = some n ∧ run.length ≤ n := by
  have hpos : 0 < run.length := List.length_pos_of_ne_nil hrun.1
  rw [runLength?, List.takeWhile_append_of_pos hrun.2, List.length_append]
  refine ⟨_, if_neg ?_, Nat.le_add_right ..⟩
  rw [beq_iff_eq]
  omega

theorem Comparand.le_comparandLength? (h : Comparand b cs) (rest : List Char) :
    ∃ n, b.comparandLength? (cs ++ rest) = some n ∧ cs.length ≤ n := by
  cases h with
  | quoted plain => exact ⟨_, quotedLength?_whole plain rest, Nat.le_refl _⟩
  | @compared op run sign hrun =>
    obtain ⟨n, hn, le⟩ := le_runLength? hrun rest
    have hhead := head?_run_ne hrun (d := '=') (by decide) rest
    refine ⟨op.symbol.toList.length + n, ?_, ?_⟩
    · rw [List.append_assoc, Body.comparandLength?, sequence_append (signLength?_append sign hhead),
        hn, Option.map_some]
    · rw [List.length_append]
      omega
  | bare hrun => exact le_runLength? hrun rest

/-- At the front of a spelling of a body, at least the spelling is taken as this body. -/
theorem Body.Spelled.le_length? (h : b.Spelled cs) (rest : List Char) :
    ∃ n, b.length? (cs ++ rest) = some n ∧ cs.length ≤ n := by
  cases h with
  | @pair _ key comparand run value =>
    obtain ⟨n, hn, le⟩ := value.le_comparandLength? rest
    refine ⟨(key ++ [':']).length + n, ?_, ?_⟩
    · rw [Body.length?_of_pair value.mem_pairs, List.append_assoc, List.cons_append,
        List.append_cons, sequence_append (keyLength?_whole run _), hn, Option.map_some]
    · simp only [List.length_append, List.length_cons, List.length_nil]
      omega
  | quoted plain => exact ⟨_, quotedLength?_whole plain rest, Nat.le_refl _⟩
  | bare run => exact le_runLength? run rest

/-- At the front of a word of a shape, at least the word is taken by the shape. -/
theorem Shape.Word.le_length? {word : List Char} (h : s.Word word) (hfront : word <+: cs) :
    ∃ n, s.length? cs = some n ∧ word.length ≤ n := by
  obtain ⟨rest, rfl⟩ := hfront
  cases h with
  | negated body =>
    obtain ⟨n, hn, le⟩ := body.le_length? rest
    refine ⟨1 + n, ?_, ?_⟩
    · rw [List.cons_append, length?_negated, hn, Option.map_some]
    · rw [List.length_cons]
      omega
  | plain body =>
    rw [length?_plain]
    exact body.le_length? rest

/-- What a shape takes is a word of it. -/
theorem Shape.length?_spec (h : s.length? cs = some n) : s.Word (cs.take n) ∧ n ≤ cs.length := by
  obtain ⟨negated, b⟩ := s
  cases negated with
  | true =>
    by_cases hhead : cs.head? = some '-'
    · obtain ⟨cs, rfl⟩ := List.head?_eq_some_iff.mp hhead
      rw [length?_negated] at h
      obtain ⟨k, hk, rfl⟩ := Option.map_eq_some_iff.mp h
      obtain ⟨spelled, le⟩ := Body.length?_spec hk
      rw [Nat.add_comm, List.take_succ_cons]
      exact ⟨.negated spelled, Nat.succ_le_succ le⟩
    · rw [length?_negated_of_head b hhead] at h
      cases h
  | false =>
    rw [length?_plain] at h
    obtain ⟨spelled, le⟩ := Body.length?_spec h
    exact ⟨.plain spelled, le⟩

theorem Shape.not_begins_iff : ¬s.Begins cs ↔ s.length? cs = none := by
  constructor
  · intro h
    refine Option.eq_none_iff_forall_ne_some.mpr fun n hn => h ?_
    exact ⟨cs.take n, (length?_spec hn).1, List.take_prefix n cs⟩
  · rintro h ⟨word, hword, hfront⟩
    obtain ⟨n, hn, -⟩ := hword.le_length? hfront
    rw [h] at hn
    cases hn

/-! ### One place of a text -/

/-- The lexeme stands in front of `rest`: its text is the longest word that its shape has at this
place, so that every part of it is as long as possible, and the shapes before this one have none. -/
structure Taken (l : Lexeme) (rest : List Char) : Prop where
  word : l.shape.Word l.text
  longest : ∀ word, l.shape.Word word → word <+: l.text ++ rest → word <+: l.text
  first : ∀ s ∈ l.shape.prior, ¬s.Begins (l.text ++ rest)

/-- The text is passed over in front of `rest`: no shape has a word at any place of it. -/
def Passed (gap rest : List Char) : Prop :=
  ∀ back, back <:+ gap → back ≠ [] → ∀ s : Shape, ¬s.Begins (back ++ rest)

theorem Taken.ne_nil (h : l.Taken rest) : l.text ≠ [] :=
  h.word.ne_nil

theorem Taken.begins (h : l.Taken rest) : l.shape.Begins (l.text ++ rest) :=
  ⟨l.text, h.word, List.prefix_append ..⟩

/-- **A lexeme is the longest word of the first shape** that has one. -/
theorem taken_iff : l.Taken rest ↔ first? (l.text ++ rest) = some (l.shape, l.text.length) := by
  rw [first?_eq_some_iff]
  constructor
  · intro h
    refine ⟨?_, fun s hs => Shape.not_begins_iff.mp (h.first s hs)⟩
    obtain ⟨n, hn, le⟩ := h.word.le_length? (List.prefix_append l.text rest)
    obtain ⟨hword, hle⟩ := Shape.length?_spec hn
    -- what is taken is no longer than the longest word
    have hlength := (h.longest _ hword (List.take_prefix n _)).length_le
    rw [List.length_take_of_le hle] at hlength
    rw [hn, Nat.le_antisymm hlength le]
  · rintro ⟨hlength, hprior⟩
    refine ⟨?_, fun word hword hfront => ?_, fun s hs => Shape.not_begins_iff.mpr (hprior s hs)⟩
    · have hword := (Shape.length?_spec hlength).1
      rwa [List.take_left] at hword
    · obtain ⟨n, hn, le⟩ := hword.le_length? hfront
      obtain rfl := Option.some.inj (hlength.symm.trans hn)
      exact List.prefix_of_prefix_length_le hfront (List.prefix_append ..) le

theorem first?_eq_none_iff : first? cs = none ↔ ∀ s : Shape, ¬s.Begins cs := by
  rw [first?, List.findSome?_eq_none_iff]
  refine ⟨fun h s => ?_, fun h s _ => ?_⟩
  · exact Shape.not_begins_iff.mpr (Option.map_eq_none_iff.mp (h s (mem_shapes s)))
  · rw [Shape.not_begins_iff.mp (h s), Option.map_none]

/-! ### What is passed over -/

theorem passed_nil (rest : List Char) : Passed [] rest := fun _ hback hne =>
  absurd (List.suffix_nil.mp hback) hne

theorem passed_cons_iff {c : Char} : Passed (c :: gap) rest ↔
    (∀ s : Shape, ¬s.Begins (c :: (gap ++ rest))) ∧ Passed gap rest := by
  constructor
  · intro h
    refine ⟨h _ (List.suffix_refl _) (List.cons_ne_nil _ _), fun back hback => ?_⟩
    exact h back (hback.trans (List.suffix_cons c gap))
  · rintro ⟨hc, hgap⟩ back hback hne
    rcases List.suffix_cons_iff.mp hback with rfl | hback
    · exact hc
    · exact hgap back hback hne

/-- Bare characters are not passed over. -/
theorem Passed.not_bare (h : Passed gap rest) {c : Char} (hc : c ∈ gap) : isBare c = false := by
  refine Bool.eq_false_iff.mpr fun bare => ?_
  obtain ⟨front, back, rfl⟩ := List.append_of_mem hc
  refine h (c :: back) (List.suffix_append ..) (List.cons_ne_nil _ _) ⟨false, .bare⟩ ⟨[c], ?_, ?_⟩
  · refine .plain (.bare ⟨List.cons_ne_nil _ _, fun d hd => ?_⟩)
    rwa [List.mem_singleton.mp hd]
  · exact ⟨back ++ rest, rfl⟩

/-- A quotation mark is passed over only if none follows it. -/
theorem Passed.count_quote (h : Passed gap rest) :
    '"' ∉ gap ∨ gap.count '"' = 1 ∧ '"' ∉ rest := by
  by_cases hmem : '"' ∈ gap
  · obtain ⟨front, back, rfl, hfront⟩ := List.eq_append_cons_of_mem hmem
    have alone : '"' ∉ back ++ rest := by
      intro closed
      obtain ⟨inner, tail, heq, plain⟩ := List.eq_append_cons_of_mem closed
      refine h ('"' :: back) (List.suffix_append ..) (List.cons_ne_nil _ _) ⟨false, .quoted⟩
        ⟨'"' :: (inner ++ ['"']), .plain (.quoted plain), tail, ?_⟩
      rw [List.cons_append, List.cons_append, heq, List.append_assoc]
      rfl
    rw [List.mem_append, not_or] at alone
    refine .inr ⟨?_, alone.2⟩
    rw [List.count_append, List.count_eq_zero.mpr hfront, List.count_cons_self,
      List.count_eq_zero.mpr alone.1]
  · exact .inl hmem

/-! ### The whole text -/

/-- A text divided into gaps, each with the lexeme that follows it, and a last gap. -/
inductive Divided : List (List Char × Lexeme) → List Char → List Char → Prop where
  | last {gap : List Char} (passed : Passed gap []) : Divided [] gap gap
  | part {gap rest last : List Char} {l : Lexeme} {parts : List (List Char × Lexeme)}
      (passed : Passed gap (l.text ++ rest)) (taken : l.Taken rest)
      (more : Divided parts last rest) : Divided ((gap, l) :: parts) last (gap ++ (l.text ++ rest))

/-- The text of gaps and lexemes. -/
def joined (parts : List (List Char × Lexeme)) (last : List Char) : List Char :=
  parts.flatMap (fun p => p.1 ++ p.2.text) ++ last

/-- What is passed over. -/
def skipped (parts : List (List Char × Lexeme)) (last : List Char) : List Char :=
  parts.flatMap (·.1) ++ last

theorem joined_cons (gap : List Char) (l : Lexeme) :
    joined ((gap, l) :: parts) last = gap ++ (l.text ++ joined parts last) := by
  rw [joined, List.flatMap_cons, List.append_assoc, List.append_assoc]
  rfl

theorem skipped_cons (gap : List Char) (l : Lexeme) :
    skipped ((gap, l) :: parts) last = gap ++ skipped parts last := by
  rw [skipped, List.flatMap_cons, List.append_assoc]
  rfl

namespace Divided

theorem eq_joined (h : Divided parts last cs) : cs = joined parts last := by
  induction h with
  | last passed => rfl
  | @part gap rest last l parts passed taken more ih =>
    rw [joined_cons, ← ih]

theorem not_bare (h : Divided parts last cs) : ∀ c ∈ skipped parts last, isBare c = false := by
  induction h with
  | last passed => exact fun c hc => passed.not_bare hc
  | part passed taken more ih =>
    intro c hc
    rw [skipped_cons] at hc
    rcases List.mem_append.mp hc with hc | hc
    · exact passed.not_bare hc
    · exact ih c hc

theorem count_skipped_le (h : Divided parts last cs) (c : Char) :
    (skipped parts last).count c ≤ cs.count c := by
  induction h with
  | last passed => exact Nat.le_refl _
  | part passed taken more ih =>
    rw [skipped_cons, List.count_append, List.count_append, List.count_append]
    omega

/-- At most one quotation mark is passed over. -/
theorem count_quote_le (h : Divided parts last cs) : (skipped parts last).count '"' ≤ 1 := by
  induction h with
  | last passed =>
    rcases passed.count_quote with plain | ⟨one, -⟩
    · exact (List.count_eq_zero.mpr plain).trans_le (Nat.zero_le 1)
    · exact one.le
  | @part gap rest last l parts passed taken more ih =>
    rw [skipped_cons, List.count_append]
    rcases passed.count_quote with plain | ⟨one, alone⟩
    · rwa [List.count_eq_zero.mpr plain, Nat.zero_add]
    · -- no quotation mark follows the gap, so the later gaps have none
      have hle := more.count_skipped_le '"'
      have hrest : rest.count '"' = 0 :=
        List.count_eq_zero.mpr fun h => alone (List.mem_append_right _ h)
      omega

theorem text_ne_nil (h : Divided parts last cs) : ∀ p ∈ parts, p.2.text ≠ [] := by
  induction h with
  | last passed => exact fun p hp => nomatch hp
  | part passed taken more ih => exact List.forall_mem_cons.mpr ⟨taken.ne_nil, ih⟩

/-- A character where no shape has a word joins the first gap. -/
theorem pass {c : Char} (h : Divided parts last cs) (none : ∀ s : Shape, ¬s.Begins (c :: cs)) :
    ∃ parts' last', Divided parts' last' (c :: cs) ∧ parts'.map (·.2) = parts.map (·.2) := by
  cases h with
  | last passed =>
    refine ⟨[], c :: cs, .last (passed_cons_iff.mpr ⟨?_, passed⟩), rfl⟩
    rwa [List.append_nil]
  | part passed taken more =>
    exact ⟨_, _, .part (passed_cons_iff.mpr ⟨none, passed⟩) taken more, rfl⟩

end Divided

/-- **The scanner divides a text** into its lexemes and gaps. -/
theorem exists_divided (cs : List Char) :
    ∃ parts last, Divided parts last cs ∧ parts.map (·.2) = scan cs := by
  induction cs using scan.induct with
  | case1 =>
    rw [scan]
    exact ⟨[], [], .last (passed_nil []), rfl⟩
  | case2 c cs s n hfirst ih =>
    obtain ⟨parts, last, divided, hparts⟩ := ih
    obtain ⟨hlength, -⟩ := first?_eq_some_iff.mp hfirst
    have hle := (Shape.length?_spec hlength).2
    obtain ⟨n, rfl⟩ := exists_succ_of_first? hfirst
    rw [scan, hfirst]
    dsimp only
    rw [Nat.add_sub_cancel] at divided hparts ⊢
    have hsplit : (c :: cs).take (n + 1) ++ cs.drop n = c :: cs :=
      List.take_append_drop (n + 1) (c :: cs)
    have taken : Taken ⟨s, (c :: cs).take (n + 1)⟩ (cs.drop n) := by
      refine taken_iff.mpr ?_
      rw [hsplit, hfirst, List.length_take_of_le hle]
    refine ⟨([], ⟨s, (c :: cs).take (n + 1)⟩) :: parts, last, ?_, ?_⟩
    · have hpart := Divided.part (passed_nil _) taken divided
      rwa [List.nil_append, hsplit] at hpart
    · rw [List.map_cons, hparts]
  | case3 c cs hfirst ih =>
    obtain ⟨parts, last, divided, hparts⟩ := ih
    obtain ⟨parts', last', divided', hsame⟩ := divided.pass (first?_eq_none_iff.mp hfirst)
    rw [scan, hfirst]
    exact ⟨parts', last', divided', hsame.trans hparts⟩

/-! ### Only one division -/

/-- A gap does not reach beyond a place where a shape has a word. -/
theorem Passed.length_le {gap' rest' : List Char} (h : Passed gap rest)
    (heq : gap ++ rest = gap' ++ rest') (begins : s.Begins rest') : gap.length ≤ gap'.length := by
  refine Nat.le_of_not_lt fun hlt => ?_
  obtain ⟨back, rfl, rfl⟩ : ∃ back, gap = gap' ++ back ∧ rest' = back ++ rest := by
    rcases List.append_eq_append_iff.mp heq with ⟨tail, rfl, -⟩ | h
    · rw [List.length_append] at hlt
      omega
    · exact h
  refine h back (List.suffix_append ..) ?_ s begins
  rintro rfl
  rw [List.append_nil] at hlt
  exact Nat.lt_irrefl _ hlt

/-- **A text is divided in one manner.** -/
theorem Divided.unique {parts' : List (List Char × Lexeme)} {last' : List Char}
    (h : Divided parts last cs) (h' : Divided parts' last' cs) : parts' = parts ∧ last' = last := by
  induction h generalizing parts' last' with
  | @last gap passed =>
    cases h' with
    | last passed' => exact ⟨rfl, rfl⟩
    | @part gap' rest last l parts passed' taken more =>
      have hle := passed.length_le (List.append_nil _) taken.begins
      have hpos := List.length_pos_of_ne_nil taken.ne_nil
      simp only [List.length_append] at hle
      omega
  | @part gap rest last l parts passed taken more ih =>
    generalize htext : gap ++ (l.text ++ rest) = text at h'
    cases h' with
    | last passed' =>
      have hle := passed'.length_le ((List.append_nil _).trans htext.symm) taken.begins
      have hpos := List.length_pos_of_ne_nil taken.ne_nil
      have hlength := congrArg List.length htext
      simp only [List.length_append] at hlength
      omega
    | @part gap' rest' last' l' parts' passed' taken' more' =>
      have hlength : gap.length = gap'.length :=
        Nat.le_antisymm (passed.length_le htext taken'.begins)
          (passed'.length_le htext.symm taken.begins)
      obtain ⟨rfl, hrest⟩ := List.append_inj htext hlength
      -- at one place there is one lexeme
      have hfirst := taken_iff.mp taken
      rw [hrest, taken_iff.mp taken'] at hfirst
      obtain ⟨hshape, hlength'⟩ := Prod.mk.inj (Option.some.inj hfirst)
      obtain ⟨htext', rfl⟩ := List.append_inj hrest hlength'.symm
      obtain ⟨shape, text⟩ := l
      obtain ⟨shape', text'⟩ := l'
      obtain rfl : shape' = shape := hshape
      obtain rfl : text = text' := htext'
      obtain ⟨rfl, rfl⟩ := ih more'
      exact ⟨rfl, rfl⟩

/-- **The lexemes of a query.**  The query without the blanks at its ends is a row of gaps and
lexemes, and the lexemes are those that the scanner finds.  No lexeme is empty.  Each is the longest
word of the first shape that has a word at its place, and no shape has a word at a place of a gap.
So the gaps hold no bare character and at most one quotation mark, and the query is divided in this
way in no other manner. -/
theorem tokenize_divides (query : List Char) :
    ∃ parts last, Text.strip query = joined parts last ∧
      tokenize query = parts.map (·.2.text) ∧ Divided parts last (Text.strip query) ∧
      (∀ p ∈ parts, p.2.text ≠ []) ∧ (∀ c ∈ skipped parts last, isBare c = false) ∧
      (skipped parts last).count '"' ≤ 1 ∧
      ∀ parts' last', Divided parts' last' (Text.strip query) → parts' = parts ∧ last' = last := by
  obtain ⟨parts, last, divided, hparts⟩ := exists_divided (Text.strip query)
  refine ⟨parts, last, divided.eq_joined, ?_, divided, divided.text_ne_nil, divided.not_bare,
    divided.count_quote_le, fun parts' last' => divided.unique⟩
  rw [tokenize, ← hparts, List.map_map]
  rfl

end LogAlert.Lexeme
