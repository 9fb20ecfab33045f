import LogAlert.Proofs.Characters
import LogAlert.Query.Token
import LogAlert.Text.Search

/-!
# The spelling of lexemes

A lexeme without its minus sign has one of five spellings.  What is taken from a text has the
spelling of its kind, and a spelling is taken as a whole if a blank or nothing follows it.

## Main definitions

* `Lexeme.IsRun` : the runs of bare characters.
* `Lexeme.Comparand`, `Lexeme.Body.Spelled` : the spellings.

## Main results

* `Lexeme.Body.length?_spec` : what is taken is spelled.
* `Lexeme.Body.Spelled.length?_append`, `Lexeme.Body.Spelled.length?_other` : what is spelled is
  taken, and only as what it is.
-/

namespace LogAlert.Lexeme

/-! ### Runs -/

/-- A run of bare characters. -/
def IsRun (cs : List Char) : Prop :=
  cs ≠ [] ∧ ∀ c ∈ cs, isBare c

theorem isRun_of_all {cs : List Char} (hne : cs ≠ []) (h : cs.all isBare = true) : IsRun cs :=
  ⟨hne, List.all_eq_true.mp h⟩

theorem isRun_minus : IsRun ['-'] :=
  isRun_of_all (List.cons_ne_nil _ _) rfl

/-- Whether no bare character is at the front of a text. -/
def Stops (cs : List Char) : Prop :=
  ∀ c, cs.head? = some c → isBare c = false

/-- Whether a text is empty or begins with a space. -/
def Ends (cs : List Char) : Prop :=
  cs = [] ∨ ∃ rest, cs = ' ' :: rest

variable {cs run key inner rest : List Char} {n : Nat}

theorem stops_cons {c : Char} (h : isBare c = false) (rest : List Char) : Stops (c :: rest) := by
  intro d hd
  obtain rfl := Option.some.inj hd
  exact h

theorem Ends.stops (h : Ends rest) : Stops rest := by
  rcases h with rfl | ⟨rest, rfl⟩
  · intro c hc
    cases hc
  · exact stops_cons (by decide) rest

theorem takeWhile_of_stops (h : Stops cs) : cs.takeWhile isBare = [] := by
  cases cs with
  | nil => rfl
  | cons c cs => rw [List.takeWhile_cons_of_neg (by rw [h c rfl]; exact Bool.false_ne_true)]

theorem runLength?_append (hrun : IsRun run) (stops : Stops rest) :
    runLength? (run ++ rest) = some run.length := by
  have hpos : run.length ≠ 0 := fun h => hrun.1 (List.length_eq_zero_iff.mp h)
  rw [runLength?, List.takeWhile_append_of_pos hrun.2, takeWhile_of_stops stops, List.append_nil]
  exact if_neg (by rwa [beq_iff_eq])

theorem runLength?_of_stops (stops : Stops cs) : runLength? cs = none := by
  rw [runLength?, takeWhile_of_stops stops]
  rfl

/-- The front of a text that is taken as a run is one, and no bare character follows it. -/
theorem runLength?_spec (h : runLength? cs = some n) :
    IsRun (cs.take n) ∧ Stops (cs.drop n) ∧ n ≤ cs.length := by
  rw [runLength?] at h
  split at h
  · cases h
  · next hpos =>
    obtain rfl := Option.some.inj h
    have hsplit := List.takeWhile_append_dropWhile (p := isBare) (l := cs)
    have hall : ∀ c ∈ cs.takeWhile isBare, isBare c := fun c hc => List.mem_takeWhile_imp hc
    have hnot := List.head?_dropWhile_not isBare cs
    generalize cs.takeWhile isBare = front at *
    generalize cs.dropWhile isBare = back at *
    subst hsplit
    rw [List.take_left, List.drop_left]
    refine ⟨⟨fun h => hpos (by rw [h]; rfl), hall⟩, fun c hc => ?_, ?_⟩
    · rw [hc] at hnot
      simpa using hnot
    · rw [List.length_append]
      exact Nat.le_add_right _ _

/-! ### Quoted texts and signs -/

theorem quotedLength?_append (hinner : '"' ∉ inner) :
    quotedLength? ('"' :: (inner ++ '"' :: rest)) = some (inner.length + 2) := by
  have hall : ∀ c ∈ inner, (c != '"') = true := fun c hc =>
    bne_iff_ne.mpr fun h => hinner (h ▸ hc)
  rw [quotedLength?, List.takeWhile_append_of_pos hall, List.takeWhile_cons_of_neg (by decide),
    List.append_nil, List.length_append, List.length_cons]
  exact if_pos (by omega)

/-- A quoted text is taken as a whole, whatever follows it. -/
theorem quotedLength?_whole (hinner : '"' ∉ inner) (rest : List Char) :
    quotedLength? ('"' :: (inner ++ ['"']) ++ rest) = some ('"' :: (inner ++ ['"'])).length := by
  rw [List.cons_append, List.append_assoc]
  refine (quotedLength?_append hinner).trans ?_
  rw [List.length_cons, List.length_append]
  rfl

theorem quotedLength?_of_head {c : Char} (h : c ≠ '"') : quotedLength? (c :: cs) = none := by
  unfold quotedLength?
  split
  · next heq =>
    cases heq
    exact absurd rfl h
  · rfl

/-- The front of a text that is taken as quoted is so. -/
theorem quotedLength?_spec (h : quotedLength? cs = some n) :
    ∃ inner, '"' ∉ inner ∧ cs.take n = '"' :: (inner ++ ['"']) ∧ n ≤ cs.length := by
  unfold quotedLength? at h
  split at h
  · next cs =>
    dsimp only at h
    split at h
    · next hlt =>
      obtain rfl := Option.some.inj h
      have hsplit := List.takeWhile_append_dropWhile (p := (· != '"')) (l := cs)
      have hall : ∀ c ∈ cs.takeWhile (· != '"'), (c != '"') = true := fun c hc =>
        List.mem_takeWhile_imp (p := (· != '"')) hc
      have hnot := List.head?_dropWhile_not (· != '"') cs
      generalize cs.takeWhile (· != '"') = inner at *
      generalize cs.dropWhile (· != '"') = back at *
      subst hsplit
      -- what follows the text inside is the closing quotation mark
      cases back with
      | nil =>
        rw [List.append_nil] at hlt
        exact absurd hlt (Nat.lt_irrefl _)
      | cons c rest =>
        obtain rfl : c = '"' := by simpa using hnot
        refine ⟨inner, fun hmem => bne_iff_ne.mp (hall _ hmem) rfl, ?_, Nat.succ_le_succ hlt⟩
        rw [List.take_succ_cons, List.take_length_add_append]
        rfl
    · cases h
  · cases h

theorem signLength?_append {op : Operator} (hop : op ≠ .eq) (hrest : rest.head? ≠ some '=') :
    signLength? (op.symbol.toList ++ rest) = some op.symbol.toList.length := by
  have hsingle {c : Char} (hc : c = '>' ∨ c = '<') : signLength? (c :: rest) = some 1 := by
    have hsign : (c == '>' || c == '<') = true := by
      rcases hc with rfl | rfl
      · rfl
      · rfl
    cases rest with
    | nil => rw [signLength?, hsign, if_pos rfl]
    | cons d rest =>
      have hd : (d == '=') = false := beq_false_of_ne fun h => hrest (congrArg some h)
      rw [signLength?, hsign, hd]
      rfl
  cases op with
  | eq => exact absurd rfl hop
  | gt => exact hsingle (.inl rfl)
  | gte => rfl
  | lt => exact hsingle (.inr rfl)
  | lte => rfl

theorem signLength?_of_head {c : Char} (h : c ≠ '>' ∧ c ≠ '<') : signLength? (c :: cs) = none := by
  have hsign : (c == '>' || c == '<') = false := by
    rw [beq_false_of_ne h.1, beq_false_of_ne h.2]
    rfl
  cases cs with
  | nil => rw [signLength?, hsign, if_neg Bool.false_ne_true]
  | cons d cs => rw [signLength?, hsign, if_neg Bool.false_ne_true]

/-- The front of a text that is taken as a sign is one. -/
theorem signLength?_spec (h : signLength? cs = some n) :
    ∃ op : Operator, op ≠ .eq ∧ cs.take n = op.symbol.toList ∧ n ≤ cs.length := by
  unfold signLength? at h
  split at h
  · next c d rest =>
    split at h
    · next hsign =>
      rw [Bool.or_eq_true, beq_iff_eq, beq_iff_eq] at hsign
      obtain rfl := Option.some.inj h
      by_cases hd : d = '='
      · subst hd
        rcases hsign with rfl | rfl
        · exact ⟨.gte, by decide, rfl, by simp⟩
        · exact ⟨.lte, by decide, rfl, by simp⟩
      · rw [if_neg (by rwa [beq_iff_eq])]
        rcases hsign with rfl | rfl
        · exact ⟨.gt, by decide, rfl, by simp⟩
        · exact ⟨.lt, by decide, rfl, by simp⟩
    · cases h
  · next c =>
    split at h
    · next hsign =>
      rw [Bool.or_eq_true, beq_iff_eq, beq_iff_eq] at hsign
      obtain rfl := Option.some.inj h
      rcases hsign with rfl | rfl
      · exact ⟨.gt, by decide, rfl, by simp⟩
      · exact ⟨.lt, by decide, rfl, by simp⟩
    · cases h
  · cases h

/-! ### Sequences -/

section Sequence

variable {first second third : List Char → Option Nat}

theorem sequence_of_none (h : first cs = none) : sequence first second cs = none := by
  rw [sequence, h]
  rfl

theorem sequence_append {part : List Char} (h : first (part ++ rest) = some part.length) :
    sequence first second (part ++ rest) = (second rest).map (part.length + ·) := by
  rw [sequence, h, Option.bind_eq_bind, Option.bind_some, List.drop_left]
  cases second rest <;> rfl

theorem sequence_spec (h : sequence first second cs = some n) :
    ∃ i j, first cs = some i ∧ second (cs.drop i) = some j ∧ n = i + j := by
  rw [sequence, Option.bind_eq_bind, Option.bind_eq_some_iff] at h
  obtain ⟨i, hi, h⟩ := h
  obtain ⟨j, hj, h⟩ := Option.bind_eq_some_iff.mp h
  exact ⟨i, j, hi, hj, (Option.some.inj h).symm⟩

theorem sequence_assoc (first second third : List Char → Option Nat) :
    sequence (sequence first second) third = sequence first (sequence second third) := by
  funext cs
  simp only [sequence, Option.bind_eq_bind, Option.bind_assoc, Option.bind_some, List.drop_drop,
    Nat.add_assoc]

end Sequence

/-! ### Keys -/

theorem oneLength?_spec {c : Char} (h : oneLength? c cs = some n) :
    n = 1 ∧ ∃ rest, cs = c :: rest := by
  unfold oneLength? at h
  split at h
  · next d rest =>
    split at h
    · next heq =>
      rw [beq_iff_eq] at heq
      subst heq
      exact ⟨(Option.some.inj h).symm, rest, rfl⟩
    · cases h
  · cases h

theorem oneLength?_of_head {c : Char} (h : cs.head? ≠ some c) : oneLength? c cs = none := by
  cases cs with
  | nil => rfl
  | cons d cs =>
    have hne : (c == d) = false := beq_false_of_ne fun hcd => h (congrArg some hcd.symm)
    rw [oneLength?, hne, if_neg Bool.false_ne_true]

theorem keyLength?_append (hkey : IsRun key) :
    keyLength? (key ++ ':' :: rest) = some (key.length + 1) := by
  rw [keyLength?, sequence_append (runLength?_append hkey (stops_cons (by decide) rest))]
  rfl

/-- A key is taken with its colon, whatever follows. -/
theorem keyLength?_whole (hkey : IsRun key) (rest : List Char) :
    keyLength? ((key ++ [':']) ++ rest) = some (key ++ [':']).length := by
  rw [List.append_assoc, List.length_append]
  exact keyLength?_append hkey

theorem keyLength?_of_stops (stops : Stops cs) : keyLength? cs = none :=
  sequence_of_none (runLength?_of_stops stops)

theorem keyLength?_of_run (hrun : IsRun run) (stops : Stops rest) (hrest : rest.head? ≠ some ':') :
    keyLength? (run ++ rest) = none := by
  rw [keyLength?, sequence_append (runLength?_append hrun stops), oneLength?_of_head hrest]
  rfl

/-- The front of a text that is taken as a key is a run with a colon. -/
theorem keyLength?_spec (h : keyLength? cs = some n) :
    ∃ key, IsRun key ∧ cs.take n = key ++ [':'] ∧ n ≤ cs.length := by
  obtain ⟨i, j, hrun, hcolon, rfl⟩ := sequence_spec h
  obtain ⟨rfl, rest, hrest⟩ := oneLength?_spec hcolon
  obtain ⟨run, -, -⟩ := runLength?_spec hrun
  refine ⟨cs.take i, run, ?_, ?_⟩
  · rw [List.take_add, hrest]
    rfl
  · have hlength := congrArg List.length hrest
    rw [List.length_drop, List.length_cons] at hlength
    omega

/-! ### Bodies -/

/-- What follows the colon of a pair. -/
inductive Comparand : Body → List Char → Prop where
  | quoted {inner : List Char} (plain : '"' ∉ inner) :
      Comparand .quotedPair ('"' :: (inner ++ ['"']))
  | compared {op : Operator} {run : List Char} (sign : op ≠ .eq) (bare : IsRun run) :
      Comparand .comparedPair (op.symbol.toList ++ run)
  | bare {run : List Char} (bare : IsRun run) : Comparand .barePair run

/-- The spelling of a body. -/
inductive Body.Spelled : Body → List Char → Prop where
  | pair {b : Body} {key comparand : List Char} (run : IsRun key) (value : Comparand b comparand) :
      Body.Spelled b (key ++ ':' :: comparand)
  | quoted {inner : List Char} (plain : '"' ∉ inner) :
      Body.Spelled .quoted ('"' :: (inner ++ ['"']))
  | bare {run : List Char} (bare : IsRun run) : Body.Spelled .bare run

/-- The length of a comparand of a pair. -/
def Body.comparandLength? : Body → List Char → Option Nat
  | .quotedPair => quotedLength?
  | .comparedPair => sequence signLength? runLength?
  | .barePair => runLength?
  | .quoted | .bare => fun _ => none

/-- The bodies that are pairs. -/
def Body.pairs : List Body :=
  [.quotedPair, .comparedPair, .barePair]

theorem Comparand.mem_pairs {b : Body} (h : Comparand b cs) : b ∈ Body.pairs := by
  cases h <;> decide

theorem Body.length?_of_pair {b : Body} (h : b ∈ Body.pairs) :
    b.length? = sequence keyLength? b.comparandLength? := by
  cases b with
  | quoted => exact absurd h (by decide)
  | bare => exact absurd h (by decide)
  | quotedPair => rfl
  | comparedPair => rfl
  | barePair => rfl

theorem head?_run (h : IsRun run) : ∃ c cs, run = c :: cs ∧ isBare c := by
  obtain ⟨c, cs, rfl⟩ := List.exists_cons_of_ne_nil h.1
  exact ⟨c, cs, rfl, h.2 c List.mem_cons_self⟩

theorem ne_of_isBare {c d : Char} (hc : isBare c) (hd : isBare d = false) : c ≠ d := by
  rintro rfl
  rw [hd] at hc
  cases hc

theorem isBare_quote : isBare '"' = false := by decide

theorem head?_run_ne (h : IsRun run) {d : Char} (hd : isBare d = false) (rest : List Char) :
    (run ++ rest).head? ≠ some d := by
  obtain ⟨c, cs, rfl, hc⟩ := head?_run h
  exact fun heq => ne_of_isBare hc hd (Option.some.inj heq)

theorem isBare_symbol (op : Operator) : ∀ c ∈ op.symbol.toList, isBare c = false ∧ c ≠ '"' := by
  have hall : op.symbol.toList.all (fun c => !isBare c && c != '"') = true := by
    cases op <;> decide
  intro c hc
  simpa using List.all_eq_true.mp hall c hc

/-- A comparand is taken as a whole. -/
theorem Comparand.length?_append {b : Body} (h : Comparand b cs) (ends : Ends rest) :
    b.comparandLength? (cs ++ rest) = some cs.length := by
  cases h with
  | quoted plain => exact quotedLength?_whole plain rest
  | @compared op run sign hrun =>
    have hhead := head?_run_ne hrun (d := '=') (by decide) rest
    rw [List.append_assoc, Body.comparandLength?, sequence_append (signLength?_append sign hhead),
      runLength?_append hrun ends.stops, List.length_append]
    rfl
  | bare hrun => exact runLength?_append hrun ends.stops

/-- A comparand is none of another kind. -/
theorem Comparand.length?_other {b other : Body} (h : Comparand b cs) (hne : other ≠ b)
    (rest : List Char) : other.comparandLength? (cs ++ rest) = none := by
  cases h with
  | @quoted inner plain =>
    cases other with
    | quotedPair => exact absurd rfl hne
    | quoted | bare => rfl
    | barePair => exact runLength?_of_stops (stops_cons isBare_quote (inner ++ ['"'] ++ rest))
    | comparedPair => exact sequence_of_none (signLength?_of_head (by decide))
  | @compared op run sign hrun =>
    obtain ⟨c, tail, hsymbol⟩ : ∃ c tail, op.symbol.toList = c :: tail := by
      cases op with
      | eq => exact absurd rfl sign
      | gt | gte | lt | lte => exact ⟨_, _, rfl⟩
    obtain ⟨hbare, hquote⟩ := isBare_symbol op c (hsymbol ▸ List.mem_cons_self)
    rw [hsymbol]
    cases other with
    | quotedPair => exact quotedLength?_of_head hquote
    | quoted | bare => rfl
    | barePair => exact runLength?_of_stops (stops_cons hbare _)
    | comparedPair => exact absurd rfl hne
  | bare hrun =>
    obtain ⟨c, tail, rfl, hc⟩ := head?_run hrun
    cases other with
    | quotedPair => exact quotedLength?_of_head (ne_of_isBare hc isBare_quote)
    | quoted | bare => rfl
    | barePair => exact absurd rfl hne
    | comparedPair =>
      exact sequence_of_none (signLength?_of_head
        ⟨ne_of_isBare hc (by decide), ne_of_isBare hc (by decide)⟩)

/-- A comparand is what was taken as one. -/
theorem comparandLength?_spec {b : Body} (h : b.comparandLength? cs = some n) :
    Comparand b (cs.take n) ∧ n ≤ cs.length := by
  cases b with
  | quotedPair =>
    obtain ⟨inner, plain, htake, hle⟩ := quotedLength?_spec h
    rw [htake]
    exact ⟨.quoted plain, hle⟩
  | comparedPair =>
    obtain ⟨i, j, hsign, hrun, rfl⟩ := sequence_spec h
    obtain ⟨op, sign, htake, hi⟩ := signLength?_spec hsign
    obtain ⟨run, -, hj⟩ := runLength?_spec hrun
    rw [List.take_add, htake]
    refine ⟨.compared sign run, ?_⟩
    rw [List.length_drop] at hj
    omega
  | barePair =>
    obtain ⟨run, -, hle⟩ := runLength?_spec h
    exact ⟨.bare run, hle⟩
  | quoted => cases h
  | bare => cases h

/-- A body is taken as a whole. -/
theorem Body.Spelled.length?_append {b : Body} (h : b.Spelled cs) (ends : Ends rest) :
    b.length? (cs ++ rest) = some cs.length := by
  cases h with
  | @pair _ key comparand run value =>
    rw [Body.length?_of_pair value.mem_pairs, List.append_assoc, List.cons_append,
      List.append_cons, sequence_append (keyLength?_whole run _), value.length?_append ends,
      Option.map_some]
    refine congrArg some ?_
    simp only [List.length_append, List.length_cons, List.length_nil]
    omega
  | quoted plain => exact quotedLength?_whole plain rest
  | bare run => exact runLength?_append run ends.stops

/-- A body is none of another kind, except that every key is a bare word. -/
theorem Body.Spelled.length?_other {b other : Body} (h : b.Spelled cs) (ends : Ends rest)
    (hne : other ≠ b) (hbare : other ≠ .bare) : other.length? (cs ++ rest) = none := by
  have hpair : other = .quoted ∨ other ∈ Body.pairs := by
    cases other with
    | bare => exact absurd rfl hbare
    | quoted => exact .inl rfl
    | quotedPair | comparedPair | barePair => exact .inr (by decide)
  cases h with
  | @pair _ key comparand run value =>
    rcases hpair with rfl | hpair
    · obtain ⟨c, tail, rfl, hc⟩ := head?_run run
      exact quotedLength?_of_head (ne_of_isBare hc isBare_quote)
    · rw [Body.length?_of_pair hpair, List.append_assoc, List.cons_append, List.append_cons,
        sequence_append (keyLength?_whole run _), value.length?_other hne rest]
      rfl
  | quoted plain =>
    rcases hpair with rfl | hpair
    · exact absurd rfl hne
    · rw [Body.length?_of_pair hpair]
      exact sequence_of_none (keyLength?_of_stops (stops_cons isBare_quote _))
  | bare run =>
    rcases hpair with rfl | hpair
    · obtain ⟨c, tail, rfl, hc⟩ := head?_run run
      exact quotedLength?_of_head (ne_of_isBare hc isBare_quote)
    · have hcolon : rest.head? ≠ some ':' := by
        rcases ends with rfl | ⟨rest, rfl⟩
        · exact fun h => nomatch h
        · exact fun h => absurd (Option.some.inj h) (by decide)
      rw [Body.length?_of_pair hpair]
      exact sequence_of_none (keyLength?_of_run run ends.stops hcolon)

/-- A body is what was taken as one. -/
theorem Body.length?_spec {b : Body} (h : b.length? cs = some n) :
    b.Spelled (cs.take n) ∧ n ≤ cs.length := by
  by_cases hpair : b ∈ Body.pairs
  · rw [Body.length?_of_pair hpair] at h
    obtain ⟨i, j, hkey, hvalue, rfl⟩ := sequence_spec h
    obtain ⟨key, run, htake, hi⟩ := keyLength?_spec hkey
    obtain ⟨value, hj⟩ := comparandLength?_spec hvalue
    rw [List.take_add, htake, List.append_assoc]
    refine ⟨.pair run value, ?_⟩
    rw [List.length_drop] at hj
    omega
  · cases b with
    | quoted =>
      obtain ⟨inner, plain, htake, hle⟩ := quotedLength?_spec h
      rw [htake]
      exact ⟨.quoted plain, hle⟩
    | bare =>
      obtain ⟨run, -, hle⟩ := runLength?_spec h
      exact ⟨.bare run, hle⟩
    | quotedPair | comparedPair | barePair => exact absurd (by decide) hpair

/-- Nothing is taken where neither a bare character nor a quotation mark is at the front. -/
theorem Body.length?_of_stops (b : Body) (stops : Stops cs) (plain : cs.head? ≠ some '"') :
    b.length? cs = none := by
  by_cases hpair : b ∈ Body.pairs
  · rw [Body.length?_of_pair hpair]
    exact sequence_of_none (keyLength?_of_stops stops)
  · cases b with
    | quoted =>
      cases cs with
      | nil => rfl
      | cons c cs => exact quotedLength?_of_head fun h => plain (congrArg some h)
    | bare => exact runLength?_of_stops stops
    | quotedPair | comparedPair | barePair => exact absurd (by decide) hpair

end LogAlert.Lexeme
