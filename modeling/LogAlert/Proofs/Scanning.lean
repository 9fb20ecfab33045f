import LogAlert.Proofs.Lexing
import Mathlib.Data.List.Basic

/-!
# The lexemes of a query

The scanner tries ten shapes in a fixed order.  The lexemes that it finds are spelled as their
shapes demand, and lexemes that are spelled so are found again when they are joined with blanks.

## Main definitions

* `Lexeme.Shape.Spelled` : the spelling of a lexeme.

## Main results

* `Lexeme.first?_spec`, `Lexeme.Shape.Spelled.first?_append` : one lexeme.
* `Lexeme.scan_spelled` : the lexemes of a text are spelled.
* `Lexeme.tokenize_join` : spelled lexemes joined with blanks are found again.
-/

namespace LogAlert.Lexeme

variable {cs rest : List Char} {n : Nat}

/-! ### The order of the shapes -/

/-- The shapes that are tried before a given one. -/
def Shape.prior (s : Shape) : List Shape :=
  shapes.takeWhile (· != s)

theorem mem_shapes (s : Shape) : s ∈ shapes := by
  obtain ⟨negated, body⟩ := s
  cases negated <;> cases body <;> decide

theorem findSome?_eq_some_iff {β : Type} {f : Shape → Option β} {s : Shape} {x : β}
    {l : List Shape} (hs : s ∈ l) :
    (l.findSome? fun s => (f s).map (s, ·)) = some (s, x) ↔
      f s = some x ∧ ∀ t ∈ l.takeWhile (· != s), f t = none := by
  induction l with
  | nil => cases hs
  | cons a l ih =>
    rw [List.findSome?_cons]
    by_cases has : a = s
    · subst has
      rw [List.takeWhile_cons_of_neg (by simp)]
      cases hfa : f a with
      | none =>
        refine ⟨fun h => ?_, fun h => nomatch h.1⟩
        -- a later shape with the same name is the same shape
        obtain ⟨t, -, ht⟩ := List.exists_of_findSome?_eq_some h
        obtain ⟨y, hy, heq⟩ := Option.map_eq_some_iff.mp ht
        obtain rfl : t = a := congrArg Prod.fst heq
        rw [hfa] at hy
        cases hy
      | some y =>
        refine ⟨fun h => ⟨?_, fun t ht => (nomatch ht)⟩, fun h => ?_⟩
        · exact congrArg some (congrArg Prod.snd (Option.some.inj h))
        · rw [Option.some.inj h.1]
          rfl
    · have hmem : s ∈ l := (List.mem_cons.mp hs).resolve_left (Ne.symm has)
      rw [List.takeWhile_cons_of_pos (by simpa using has), List.forall_mem_cons]
      cases hfa : f a with
      | none =>
        refine (ih hmem).trans ⟨fun h => ⟨h.1, rfl, h.2⟩, fun h => ⟨h.1, h.2.2⟩⟩
      | some y =>
        refine ⟨fun h => absurd (congrArg Prod.fst (Option.some.inj h)) has, fun h => ?_⟩
        exact nomatch h.2.1

/-- A shape is taken if it fits and no shape before it does. -/
theorem first?_eq_some_iff {s : Shape} : first? cs = some (s, n) ↔
    s.length? cs = some n ∧ ∀ t ∈ s.prior, t.length? cs = none :=
  findSome?_eq_some_iff (mem_shapes s)

theorem prior_negated (b : Body) : ∀ s ∈ (Shape.mk true b).prior, s.body ≠ b ∧ s.body ≠ .bare := by
  cases b <;> decide

theorem prior_plain (b : Body) : ∀ s ∈ (Shape.mk false b).prior,
    s = ⟨true, b⟩ ∨ s.body ≠ b ∧ s.body ≠ .bare := by
  cases b <;> decide

theorem negated_mem_prior (b : Body) : (Shape.mk true b) ∈ (Shape.mk false b).prior := by
  cases b <;> decide

theorem length?_negated (b : Body) (cs : List Char) :
    (Shape.mk true b).length? ('-' :: cs) = (b.length? cs).map (1 + ·) := by
  rw [Shape.length?, if_pos rfl, sequence, oneLength?, if_pos (beq_self_eq_true _),
    Option.bind_eq_bind, Option.bind_some, List.drop_succ_cons, List.drop_zero]
  cases b.length? cs <;> rfl

theorem length?_negated_of_head (b : Body) (h : cs.head? ≠ some '-') :
    (Shape.mk true b).length? cs = none := by
  rw [Shape.length?, if_pos rfl]
  exact sequence_of_none (oneLength?_of_head h)

theorem length?_plain (b : Body) : (Shape.mk false b).length? = b.length? := by
  rw [Shape.length?, if_neg Bool.false_ne_true]

/-! ### One lexeme -/

/-- The spelling of a lexeme.  One without a minus sign may have a minus sign at the front of its
body only if this is all that stands before a colon, or before the end. -/
inductive Shape.Spelled : Shape → List Char → Prop where
  | negated {b : Body} {cs : List Char} (body : b.Spelled cs) : Shape.Spelled ⟨true, b⟩ ('-' :: cs)
  | plain {b : Body} {cs : List Char} (body : b.Spelled cs)
      (minus : ∀ rest, cs = '-' :: rest → Stops rest) : Shape.Spelled ⟨false, b⟩ cs

theorem stops_append (hcs : Stops cs) (hrest : Stops rest) : Stops (cs ++ rest) := by
  cases cs with
  | nil => exact hrest
  | cons c cs => exact hcs

/-- Behind a minus sign that belongs to a body stands no quotation mark. -/
theorem Body.Spelled.quote_not_after_minus {b : Body} (h : b.Spelled ('-' :: cs)) :
    cs.head? ≠ some '"' := by
  intro hquote
  have hhead {key : List Char} {c : Char} {tail : List Char} (hc : c ≠ '"') (run : IsRun key)
      (heq : key ++ c :: tail = '-' :: cs) : False := by
    obtain ⟨d, rest, rfl, -⟩ := head?_run run
    rw [List.cons_append, List.cons.injEq] at heq
    obtain ⟨-, rfl⟩ := heq
    cases rest with
    | nil => exact hc (Option.some.inj hquote)
    | cons e rest =>
      have he := run.2 e (List.mem_cons_of_mem _ List.mem_cons_self)
      exact ne_of_isBare he isBare_quote (Option.some.inj hquote)
  generalize htext : '-' :: cs = text at h
  cases h with
  | pair run value => exact hhead (by decide) run htext.symm
  | quoted plain =>
    rw [List.cons.injEq] at htext
    exact absurd htext.1 (by decide)
  | bare run =>
    rw [← htext] at run
    cases cs with
    | nil => cases hquote
    | cons c cs =>
      have hc := run.2 c (List.mem_cons_of_mem _ List.mem_cons_self)
      exact ne_of_isBare hc isBare_quote (Option.some.inj hquote)

/-- A minus sign in front of a body makes it another body of its kind, or one that no other kind
fits. -/
theorem Body.Spelled.length?_minus {b other : Body} (h : b.Spelled cs) (ends : Ends rest)
    (hne : other ≠ b) (hbare : other ≠ .bare) : other.length? ('-' :: cs ++ rest) = none := by
  have hrun {key : List Char} (run : IsRun key) : IsRun ('-' :: key) := by
    refine ⟨List.cons_ne_nil _ _, fun c hc => ?_⟩
    rcases List.mem_cons.mp hc with rfl | hc
    · decide
    · exact run.2 c hc
  cases h with
  | pair run value =>
    rw [← List.cons_append]
    exact (Body.Spelled.pair (hrun run) value).length?_other ends hne hbare
  | bare run => exact (Body.Spelled.bare (hrun run)).length?_other ends hne hbare
  | @quoted inner plain =>
    have hpair : other ∈ Body.pairs := by
      cases other with
      | bare => exact absurd rfl hbare
      | quoted => exact absurd rfl hne
      | quotedPair | comparedPair | barePair => decide
    rw [Body.length?_of_pair hpair]
    have hkey : keyLength? (['-'] ++ '"' :: (inner ++ ['"'] ++ rest)) = none :=
      keyLength?_of_run isRun_minus (stops_cons isBare_quote _) (by simp)
    exact sequence_of_none hkey

/-- A lexeme is taken as a whole, by its own shape. -/
theorem Shape.Spelled.first?_append {s : Shape} (h : s.Spelled cs) (ends : Ends rest) :
    first? (cs ++ rest) = some (s, cs.length) := by
  rw [first?_eq_some_iff]
  cases h with
  | @negated b cs body =>
    refine ⟨?_, fun t ht => ?_⟩
    · rw [List.cons_append, length?_negated, body.length?_append ends, Option.map_some,
        List.length_cons, Nat.add_comm]
    · obtain ⟨hne, hbare⟩ := prior_negated b t ht
      obtain ⟨negated, other⟩ := t
      cases negated with
      | true =>
        rw [List.cons_append, length?_negated, body.length?_other ends hne hbare]
        rfl
      | false =>
        rw [length?_plain]
        exact body.length?_minus ends hne hbare
  | @plain b _ body minus =>
    refine ⟨by rw [length?_plain, body.length?_append ends], fun t ht => ?_⟩
    obtain ⟨negated, other⟩ := t
    cases negated with
    | true =>
      by_cases hhead : (cs ++ rest).head? = some '-'
      · -- the minus sign is the whole key, so that nothing is taken after it
        cases cs with
        | nil =>
          rcases ends with rfl | ⟨rest, rfl⟩
          · cases hhead
          · exact absurd (Option.some.inj hhead) (by decide)
        | cons c cs =>
          obtain rfl : c = '-' := Option.some.inj hhead
          have hplain : (cs ++ rest).head? ≠ some '"' := by
            cases cs with
            | nil =>
              rcases ends with rfl | ⟨rest, rfl⟩
              · exact fun h => nomatch h
              · exact fun h => absurd (Option.some.inj h) (by decide)
            | cons d cs => exact body.quote_not_after_minus
          rw [List.cons_append, length?_negated,
            other.length?_of_stops (stops_append (minus cs rfl) ends.stops) hplain]
          rfl
      · exact length?_negated_of_head other hhead
    | false =>
      obtain ⟨hne, hbare⟩ : other ≠ b ∧ other ≠ .bare :=
        (prior_plain b _ ht).resolve_left fun h => nomatch h
      rw [length?_plain]
      exact body.length?_other ends hne hbare

theorem runLength?_cons {c d : Char} (hc : isBare c) (hd : isBare d) (cs : List Char) :
    runLength? (c :: d :: cs) = (runLength? (d :: cs)).map (1 + ·) := by
  simp only [runLength?, List.takeWhile_cons_of_pos hc, List.takeWhile_cons_of_pos hd,
    List.length_cons, beq_iff_eq, Nat.add_eq_zero_iff, Nat.one_ne_zero, and_false, if_false,
    Option.map_some, Nat.add_comm 1]

/-- A text whose first two characters are bare is taken no worse without the first of them. -/
theorem Body.isSome_length?_tail {b : Body} {c : Char} (hc : isBare c)
    (h : b.length? ('-' :: c :: cs) = some n) : (b.length? (c :: cs)).isSome := by
  have hrun := runLength?_cons (c := '-') (by decide) hc cs
  have hsequence {next : List Char → Option Nat}
      (h : sequence runLength? next ('-' :: c :: cs) = some n) :
      (sequence runLength? next (c :: cs)).isSome := by
    obtain ⟨i, j, hi, hj, -⟩ := sequence_spec h
    rw [hrun] at hi
    obtain ⟨k, hk, rfl⟩ := Option.map_eq_some_iff.mp hi
    rw [Nat.add_comm, List.drop_succ_cons] at hj
    rw [sequence, hk, Option.bind_eq_bind, Option.bind_some, hj]
    rfl
  by_cases hpair : b ∈ Body.pairs
  · rw [Body.length?_of_pair hpair, keyLength?, sequence_assoc] at h ⊢
    exact hsequence h
  · cases b with
    | quoted =>
      rw [Body.length?, quotedLength?_of_head (by decide)] at h
      cases h
    | bare =>
      rw [Body.length?, hrun] at h
      obtain ⟨k, hk, -⟩ := Option.map_eq_some_iff.mp h
      exact Option.isSome_of_eq_some hk
    | quotedPair | comparedPair | barePair => exact absurd (by decide) hpair

/-- A lexeme that is taken has the spelling of its shape. -/
theorem first?_spec {s : Shape} (h : first? cs = some (s, n)) :
    s.Spelled (cs.take n) := by
  obtain ⟨hlength, hprior⟩ := first?_eq_some_iff.mp h
  obtain ⟨negated, b⟩ := s
  cases negated with
  | true =>
    by_cases hhead : cs.head? = some '-'
    · obtain ⟨cs, rfl⟩ := List.head?_eq_some_iff.mp hhead
      rw [length?_negated] at hlength
      obtain ⟨k, hk, rfl⟩ := Option.map_eq_some_iff.mp hlength
      rw [Nat.add_comm, List.take_succ_cons]
      exact .negated (Body.length?_spec hk).1
    · rw [length?_negated_of_head b hhead] at hlength
      cases hlength
  | false =>
    rw [length?_plain] at hlength
    refine .plain (Body.length?_spec hlength).1 fun rest hrest c hc => ?_
    -- otherwise the shape with a minus sign had been taken
    refine Bool.eq_false_iff.mpr fun bare => ?_
    obtain ⟨tail, rfl⟩ := List.head?_eq_some_iff.mp hc
    obtain ⟨cs, rfl⟩ : ∃ cs', cs = '-' :: c :: cs' := by
      have hsplit := List.take_append_drop n cs
      rw [hrest] at hsplit
      exact ⟨tail ++ cs.drop n, hsplit.symm⟩
    have hnone := hprior _ (negated_mem_prior b)
    rw [length?_negated, Option.map_eq_none_iff] at hnone
    have hsome := Body.isSome_length?_tail bare hlength
    rw [hnone] at hsome
    cases hsome

/-! ### The ends of lexemes -/

/-- A text that is not empty and has no blanks at its ends. -/
structure Framed (cs : List Char) : Prop where
  nonempty : cs ≠ []
  first : ∀ c, cs.head? = some c → Text.isBlank c = false
  last : ∀ c, cs.getLast? = some c → Text.isBlank c = false

theorem framed_append {front : List Char} {d : Char}
    (hfirst : ∀ c, (front ++ [d]).head? = some c → Text.isBlank c = false)
    (hlast : Text.isBlank d = false) : Framed (front ++ [d]) where
  nonempty := List.append_ne_nil_of_right_ne_nil _ (List.cons_ne_nil _ _)
  first := hfirst
  last c hc := by
    rw [List.getLast?_concat] at hc
    obtain rfl := Option.some.inj hc
    exact hlast

theorem framed_quoted (inner : List Char) : Framed ('"' :: (inner ++ ['"'])) := by
  have hfirst (c : Char) (hc : (('"' :: inner) ++ ['"']).head? = some c) :
      Text.isBlank c = false := by
    obtain rfl := Option.some.inj hc
    decide
  exact framed_append hfirst (by decide)

theorem framed_run {run : List Char} (h : IsRun run) : Framed run where
  nonempty := h.1
  first c hc := Text.isBlank_of_isBare (h.2 c (List.mem_of_head? hc))
  last c hc := Text.isBlank_of_isBare (h.2 c (List.mem_of_getLast? hc))

/-- A text that begins and ends like framed ones is framed. -/
theorem Framed.append {front : List Char} (hfront : Framed front) (hcs : Framed cs)
    (middle : List Char) : Framed (front ++ (middle ++ cs)) where
  nonempty := List.append_ne_nil_of_left_ne_nil hfront.nonempty _
  first c hc := by
    rw [List.head?_append_of_ne_nil _ hfront.nonempty] at hc
    exact hfront.first c hc
  last c hc := by
    rw [← List.append_assoc, List.getLast?_append_of_ne_nil _ hcs.nonempty] at hc
    exact hcs.last c hc

theorem Comparand.last {b : Body} (h : Comparand b cs) :
    ∃ front back, cs = front ++ back ∧ Framed back := by
  cases h with
  | quoted plain => exact ⟨[], _, rfl, framed_quoted _⟩
  | compared sign run => exact ⟨_, _, rfl, framed_run run⟩
  | bare run => exact ⟨[], _, rfl, framed_run run⟩

theorem Body.Spelled.framed {b : Body} (h : b.Spelled cs) : Framed cs := by
  cases h with
  | @pair _ key comparand run value =>
    obtain ⟨front, back, rfl, hback⟩ := value.last
    exact (framed_run run).append hback (':' :: front)
  | quoted plain => exact framed_quoted _
  | bare run => exact framed_run run

theorem Shape.Spelled.framed {s : Shape} (h : s.Spelled cs) : Framed cs := by
  cases h with
  | negated body =>
    exact (framed_run isRun_minus).append body.framed []
  | plain body => exact body.framed

/-- At least one character is taken. -/
theorem exists_succ_of_first? {s : Shape} (h : first? cs = some (s, n)) : ∃ m, n = m + 1 := by
  refine Nat.exists_eq_succ_of_ne_zero fun zero => ?_
  exact (first?_spec h).framed.nonempty (by rw [zero, List.take_zero])

/-! ### All lexemes -/

/-- **The lexemes of a text** have the spellings of their shapes. -/
theorem scan_spelled (cs : List Char) : ∀ l ∈ scan cs, l.shape.Spelled l.text := by
  induction cs using scan.induct with
  | case1 =>
    intro l hl
    rw [scan] at hl
    cases hl
  | case2 c cs s n hfirst ih =>
    intro l hl
    rw [scan, hfirst] at hl
    rcases List.mem_cons.mp hl with rfl | hl
    · exact first?_spec hfirst
    · exact ih l hl
  | case3 c cs hfirst ih =>
    intro l hl
    rw [scan, hfirst] at hl
    exact ih l hl

/-- What is taken first is the first lexeme. -/
theorem scan_of_first? {s : Shape} (hne : cs ≠ []) (h : first? (cs ++ rest) = some (s, cs.length)) :
    scan (cs ++ rest) = ⟨s, cs⟩ :: scan rest := by
  obtain ⟨c, cs, rfl⟩ := List.exists_cons_of_ne_nil hne
  rw [List.cons_append, scan, ← List.cons_append, h]
  dsimp only
  rw [List.take_left, List.length_cons, Nat.add_sub_cancel, List.drop_left]

/-- A lexeme at the front of a text is found. -/
theorem scan_append {s : Shape} (h : s.Spelled cs) (ends : Ends rest) :
    scan (cs ++ rest) = ⟨s, cs⟩ :: scan rest :=
  scan_of_first? h.framed.nonempty (h.first?_append ends)

/-- A blank is passed over. -/
theorem scan_blank {b : Char} (blank : Text.isBlank b) (cs : List Char) :
    scan (b :: cs) = scan cs := by
  have bare : isBare b = false := by
    refine Bool.eq_false_iff.mpr fun bare => ?_
    rw [Text.isBlank_of_isBare bare] at blank
    cases blank
  have hne {c : Char} (hc : Text.isBlank c = false) : (b :: cs).head? ≠ some c := by
    intro h
    rw [← Option.some.inj h, blank] at hc
    cases hc
  have hfirst : first? (b :: cs) = none := by
    rw [first?, List.findSome?_eq_none_iff]
    rintro ⟨negated, body⟩ -
    rw [Option.map_eq_none_iff]
    cases negated with
    | true => exact length?_negated_of_head body (hne (by decide))
    | false =>
      rw [length?_plain]
      exact body.length?_of_stops (stops_cons bare cs) (hne (by decide))
  rw [scan, hfirst]

theorem scan_space (cs : List Char) : scan (' ' :: cs) = scan cs :=
  scan_blank (by decide) cs

theorem join_cons (part next : List Char) (parts : List (List Char)) :
    Text.join [' '] (part :: next :: parts) = part ++ ' ' :: Text.join [' '] (next :: parts) := by
  rw [Text.join, List.append_assoc]
  · rfl
  · exact List.cons_ne_nil _ _

theorem framed_join {parts : List (List Char)} (h : ∀ part ∈ parts, Framed part)
    (hne : parts ≠ []) : Framed (Text.join [' '] parts) := by
  induction parts with
  | nil => exact absurd rfl hne
  | cons part parts ih =>
    obtain ⟨hpart, hparts⟩ := List.forall_mem_cons.mp h
    cases parts with
    | nil => exact hpart
    | cons next parts =>
      rw [join_cons]
      exact hpart.append (ih hparts (List.cons_ne_nil _ _)) [' ']

theorem scan_join {lexemes : List Lexeme} (h : ∀ l ∈ lexemes, l.shape.Spelled l.text) :
    scan (Text.join [' '] (lexemes.map (·.text))) = lexemes := by
  induction lexemes with
  | nil => rw [List.map_nil, Text.join, scan]
  | cons l lexemes ih =>
    obtain ⟨hl, hlexemes⟩ := List.forall_mem_cons.mp h
    cases lexemes with
    | nil =>
      have hscan := scan_append hl (.inl rfl)
      rw [List.append_nil, scan] at hscan
      exact hscan
    | cons next lexemes =>
      rw [List.map_cons, List.map_cons, join_cons, scan_append hl (.inr ⟨_, rfl⟩), scan_space]
      exact congrArg _ (ih hlexemes)

/-- **Spelled lexemes** that are joined with blanks are found again. -/
theorem tokenize_join {lexemes : List Lexeme} (h : ∀ l ∈ lexemes, l.shape.Spelled l.text) :
    tokenize (Text.join [' '] (lexemes.map (·.text))) = lexemes.map (·.text) := by
  have hstrip : Text.strip (Text.join [' '] (lexemes.map (·.text))) =
      Text.join [' '] (lexemes.map (·.text)) := by
    cases lexemes with
    | nil => rfl
    | cons l lexemes =>
      have hframed : Framed (Text.join [' '] ((l :: lexemes).map (·.text))) := by
        refine framed_join (fun part hpart => ?_) (List.cons_ne_nil _ _)
        obtain ⟨k, hk, rfl⟩ := List.mem_map.mp hpart
        exact (h k hk).framed
      exact Text.strip_eq_self hframed.first hframed.last
  rw [tokenize, hstrip, scan_join h]

end LogAlert.Lexeme
