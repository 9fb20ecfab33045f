import LogAlert.Proofs.Answering

/-!
# What lexemes are read as

The scanner finds a lexeme by its shape, and the reader looks at the text of the lexeme once more.
Both agree on what it is, apart from one sort of pairs: a minus sign that stands alone before a
colon is a key for the scanner, and for the reader it excludes a word that begins with the colon.

## Main definitions

* `Lexeme.Body.Means`, `Lexeme.Shape.Means` : the tokens that a shape stands for.
* `Filter.WellFormed` : the filters of which a query consists.

## Main results

* `Query.read_as_scanned_iff` : which lexemes are read as what their shape stands for.
* `Query.parse_wellFormed` : reading a query does not fail and yields well-formed tokens.
-/

namespace LogAlert

open Lexeme Query

/-! ### What shapes stand for -/

/-- The filters that ask for one field of a record. -/
inductive Filter.OfField : Filter → Prop where
  | metadata (key : String) (op : Operator) (value : String) :
      Filter.OfField (.metadata key op value)
  | level (name : String) : Filter.OfField (.level name)
  | timestamp (op : Operator) (instant : Moment) : Filter.OfField (.timestamp op instant)
  | source (pattern : String) : Filter.OfField (.source pattern)

/-- The filters that a body stands for: a field for a pair, a phrase for a quoted text, and a term
of bare characters for a bare word. -/
inductive Lexeme.Body.Means : Body → Filter → Prop where
  | pair {b : Body} {f : Filter} (pair : b ∈ Body.pairs) (field : f.OfField) : Lexeme.Body.Means b f
  | quoted (text : String) : Lexeme.Body.Means .quoted (.phrase text)
  | bare {text : String} (run : IsRun text.toList) : Lexeme.Body.Means .bare (.term text)

/-- The tokens that a shape stands for.  They are excluded if it has a minus sign. -/
structure Lexeme.Shape.Means (s : Shape) (t : Token) : Prop where
  excluded : t.excluded = s.negated
  filter : s.body.Means t.filter

namespace Query

variable {s : Shape} {b : Body} {cs key : List Char} {now : Moment} {filter : Option Filter}
  {token : Option Token}

/-- A pair is read as a filter on a field, or dropped. -/
theorem ofField_of_pair (run : IsRun key) (value : Comparand b cs)
    (h : classifyBody (key ++ ':' :: cs) now = .ok filter) : ∀ f ∈ filter, f.OfField := by
  obtain ⟨op, raw, hextract, -, -⟩ := comparand_spec value
  rw [classifyBody_pair run value, classifyPair_append run hextract] at h
  intro f hf
  split at h
  · obtain rfl := Except.ok.inj h
    obtain ⟨name, -, rfl⟩ := Option.map_eq_some_iff.mp hf
    exact .level name
  split at h
  · cases hread : Instant.read (unquote raw) now with
    | error e =>
      rw [hread] at h
      cases h
    | ok instant =>
      rw [hread] at h
      obtain rfl := Except.ok.inj h
      obtain ⟨m, -, rfl⟩ := Option.map_eq_some_iff.mp hf
      exact .timestamp op m
  split at h
  · obtain rfl := Except.ok.inj h
    obtain rfl := Option.some.inj hf
    exact .source _
  · obtain rfl := Except.ok.inj h
    obtain rfl := Option.some.inj hf
    exact .metadata _ _ _

/-- A spelled body is read as what it stands for, or dropped. -/
theorem means_of_body (spelled : b.Spelled cs) (h : classifyBody cs now = .ok filter) :
    ∀ f ∈ filter, b.Means f := by
  cases spelled with
  | pair run value => exact fun f hf => .pair value.mem_pairs (ofField_of_pair run value h f hf)
  | @quoted inner plain =>
    rw [classifyBody_quoted plain] at h
    obtain rfl := Except.ok.inj h
    intro f hf
    split at hf
    · cases hf
    · obtain rfl := Option.some.inj hf
      exact .quoted _
  | bare run =>
    rw [classifyBody_run run] at h
    obtain rfl := Except.ok.inj h
    intro f hf
    obtain rfl := Option.some.inj hf
    refine .bare ?_
    rwa [String.toList_ofList]

theorem means_of_map {excluded : Bool} (body : ∀ filter, classifyBody cs now = .ok filter →
    ∀ f ∈ filter, b.Means f)
    (h : (classifyBody cs now).map (·.map (⟨excluded, ·⟩)) = .ok token) :
    ∀ t ∈ token, Shape.Means ⟨excluded, b⟩ t := by
  cases hbody : classifyBody cs now with
  | error e =>
    rw [hbody] at h
    cases h
  | ok filter =>
    rw [hbody] at h
    obtain rfl := Except.ok.inj h
    intro t ht
    obtain ⟨f, hf, rfl⟩ := Option.map_eq_some_iff.mp ht
    exact ⟨rfl, body filter hbody f hf⟩

/-! ### A minus sign before a colon -/

theorem head?_ne_colon (h : b.Spelled cs) : cs.head? ≠ some ':' := by
  cases h with
  | pair run value => exact head?_run_ne run (by decide) _
  | quoted plain => exact fun h => absurd (Option.some.inj h) (by decide)
  | bare run =>
    have hne := head?_run_ne run (d := ':') (by decide) []
    rwa [List.append_nil] at hne

/-- A lexeme that begins with a minus sign and a colon is a pair whose key is the minus sign. -/
theorem pair_of_colon (h : s.Spelled ('-' :: ':' :: cs)) : s.body ∈ Body.pairs := by
  cases h with
  | negated body => exact absurd rfl (head?_ne_colon body)
  | plain body minus =>
    rcases after_minus body (minus _ rfl) with ⟨comparand, heq, value⟩ | ⟨-, heq⟩
    · exact value.mem_pairs
    · cases heq

theorem classify_colon (cs : List Char) :
    classify ('-' :: ':' :: cs) now = .ok (some ⟨true, .term (String.ofList (':' :: cs))⟩) :=
  classify_minus (classifyBody_colon cs)

/-- Every other lexeme is read as what its shape stands for, or dropped. -/
theorem means_of_spelled (h : s.Spelled cs) (colon : ¬['-', ':'] <+: cs)
    (hread : classify cs now = .ok token) : ∀ t ∈ token, s.Means t := by
  cases h with
  | negated body =>
    rw [classify_cons_minus] at hread
    exact means_of_map (fun filter => means_of_body body) hread
  | @plain b _ body minus =>
    by_cases hhead : cs.head? = some '-'
    · obtain ⟨cs, rfl⟩ := List.head?_eq_some_iff.mp hhead
      rcases after_minus body (minus cs rfl) with ⟨comparand, rfl, -⟩ | ⟨-, rfl⟩
      · exact absurd ⟨comparand, rfl⟩ colon
      · -- the minus sign alone is dropped
        obtain rfl := Except.ok.inj hread
        exact fun t ht => nomatch ht
    · rw [classify_of_head hhead] at hread
      exact means_of_map (fun filter => means_of_body body) hread

/-- **A lexeme is read as what its shape stands for**, or dropped, exactly if it is no pair whose
key is the minus sign alone.  Such a pair is read as the exclusion of a term that begins with the
colon.  Reading a lexeme does not fail if the day before is in the calendar. -/
theorem read_as_scanned_iff (query : List Char) (now : Moment) {l : Lexeme}
    (hl : l ∈ scan (Text.strip query)) :
    (now.HasYesterday → ∃ token, classify l.text now = .ok token) ∧
      ∀ token, classify l.text now = .ok token →
        ((∀ t ∈ token, l.shape.Means t) ↔ ¬['-', ':'] <+: l.text) ∧
        (['-', ':'] <+: l.text → l.shape.body ∈ Body.pairs ∧
          token = some ⟨true, .term (String.ofList (l.text.drop 1))⟩) := by
  obtain ⟨s, text⟩ := l
  have spelled : s.Spelled text := scan_spelled _ _ hl
  refine ⟨fun hnow => ?_, fun token hread => ?_⟩
  · obtain ⟨token, htoken, -⟩ := classify_sound hnow spelled
    exact ⟨token, htoken⟩
  dsimp only at hread ⊢
  by_cases colon : ['-', ':'] <+: text
  · obtain ⟨cs, rfl⟩ := colon
    have pair : s.body ∈ Body.pairs := pair_of_colon spelled
    rw [List.cons_append, List.cons_append, List.nil_append, classify_colon] at hread
    obtain rfl := Except.ok.inj hread
    refine ⟨iff_of_false (fun means => ?_) fun h => h ⟨cs, rfl⟩, fun _ => ⟨pair, rfl⟩⟩
    -- a term is no field
    have hbody := (means _ rfl).filter
    generalize s.body = b at pair hbody
    cases hbody with
    | pair _ field => cases field
    | bare => exact absurd pair (by decide)
  · exact ⟨iff_of_true (means_of_spelled spelled colon hread) colon, fun h => absurd h colon⟩

namespace Sample

/-- A pair whose key is the minus sign, and an excluded quoted text. -/
def minusKey : List Char := "-:x -\"a b\"".toList

theorem scan_minusKey : scan (Text.strip minusKey) =
    [⟨⟨false, .barePair⟩, "-:x".toList⟩, ⟨⟨true, .quoted⟩, "-\"a b\"".toList⟩] := by
  decide +kernel

end Sample

theorem read_as_scanned_of_minusKey :
    (⟨⟨true, .quoted⟩, "-\"a b\"".toList⟩ : Lexeme) ∈ scan (Text.strip Sample.minusKey) ∧
      Sample.reading.HasYesterday ∧ ∃ token,
        classify "-\"a b\"".toList Sample.reading = .ok token ∧
        ∀ t ∈ token, Shape.Means ⟨true, .quoted⟩ t := by
  have hmem : (⟨⟨true, .quoted⟩, "-\"a b\"".toList⟩ : Lexeme) ∈
      scan (Text.strip Sample.minusKey) := by
    rw [Sample.scan_minusKey]
    exact List.mem_cons_of_mem _ List.mem_cons_self
  obtain ⟨reads, means⟩ := read_as_scanned_iff Sample.minusKey Sample.reading hmem
  obtain ⟨token, htoken⟩ := reads Sample.reading_current.hasYesterday
  exact ⟨hmem, Sample.reading_current.hasYesterday, token, htoken,
    (means token htoken).1.mpr (by decide)⟩

/-- **The scanner and the reader do not always agree**: a pair without a key but the minus sign is
no filter on a field. -/
theorem minus_key_is_read_as_term :
    ¬∀ (query : List Char) (now : Moment), ∀ l ∈ scan (Text.strip query), ∀ token,
      classify l.text now = .ok token → ∀ t ∈ token, l.shape.body.Means t.filter := by
  intro agree
  have hmem : (⟨⟨false, .barePair⟩, "-:x".toList⟩ : Lexeme) ∈
      scan (Text.strip Sample.minusKey) := by
    rw [Sample.scan_minusKey]
    exact List.mem_cons_self
  have means := agree _ Sample.reading _ hmem _ (classify_colon ['x']) _ rfl
  cases means with
  | pair _ field => cases field

/-! ### Well-formed tokens -/

end Query

/-- The filters of which a query consists. -/
def Filter.WellFormed : Filter → Prop
  | .term text | .phrase text => text ≠ ""
  | .metadata key op value => key ≠ "" ∧
      fieldName key.toList ∉ ["level", "timestamp", "source"] ∧
      ((∃ c ∈ value.toList, isBare c = false) → op = .eq)
  | .level name => name ∈ Level.names
  | .timestamp _ instant => instant.isAware
  | .source _ => True

theorem Filter.Sound.wellFormed {excluded : Bool} {f : Filter} (h : f.Sound excluded) :
    f.WellFormed := by
  have ne_empty {text : String} (h : text.toList ≠ []) : text ≠ "" :=
    mt String.toList_eq_nil_iff.mpr h
  cases h with
  | word run => exact ne_empty run.1
  | colon written =>
    refine ne_empty ?_
    rw [written]
    exact List.cons_ne_nil _ _
  | phrase nonempty => exact ne_empty nonempty
  | metadata run minus field operand =>
    refine ⟨ne_empty run.1, field, fun ⟨c, hc, hbare⟩ => ?_⟩
    by_contra hop
    rw [(operand.bare hop).2 c hc] at hbare
    cases hbare
  | level known => exact known
  | timestamp aware => exact aware
  | source => trivial

namespace Query

/-- **Reading a query does not fail** if the day before is in the calendar, whatever the query is,
and also if there is none.  Each lexeme yields at most one token, and the tokens are in the order of
the lexemes.  All tokens are well-formed, and each has an answer for every record with a timed
entry whose integers are short enough to be written, except for the pairs that are unanswerable. -/
theorem parse_wellFormed {now : Moment} (hnow : now.HasYesterday) (query : Option (List Char)) :
    ∃ outcomes : List (Option Token),
      List.Forall₂ (fun text outcome => classify text now = .ok outcome)
        (query.elim [] tokenize) outcomes ∧
      parseGiven query now = .ok outcomes.reduceOption ∧
      ∀ t ∈ outcomes.reduceOption, t.filter.WellFormed ∧
        ∀ r : Record, r.timestamp.isAware → r.Fits → ¬t.filter.Unanswerable r →
          ∃ answer, t.holds r = .ok answer := by
  cases query with
  | none => exact ⟨[], .nil, rfl, fun t ht => nomatch ht⟩
  | some query =>
    obtain ⟨outcomes, houtcomes, hparse, sound⟩ := parse_outcomes hnow query
    refine ⟨outcomes, houtcomes, hparse, fun t ht => ⟨(sound t ht).wellFormed, ?_⟩⟩
    intro r timed fits answerable
    cases hholds : t.holds r with
    | ok answer => exact ⟨answer, rfl⟩
    | error e =>
      exact absurd ((Token.holds_error_iff (sound t ht) timed fits).mp ⟨e, hholds⟩) answerable

namespace Sample

/-- The first time that has a yesterday. -/
def secondDay : Moment := .midnight ⟨1, 1, 2⟩

theorem secondDay_hasYesterday : secondDay.HasYesterday := by
  constructor <;> decide

end Sample

theorem parse_wellFormed_of_secondDay :
    Sample.secondDay.HasYesterday ∧ ∃ outcomes : List (Option Token),
      List.Forall₂ (fun text outcome => classify text Sample.secondDay = .ok outcome)
        (tokenize "timestamp:<yesterday \"\" n:>5".toList) outcomes ∧
      parseGiven (some "timestamp:<yesterday \"\" n:>5".toList) Sample.secondDay =
        .ok outcomes.reduceOption ∧
      outcomes.reduceOption.length = 2 ∧ ∀ t ∈ outcomes.reduceOption, t.filter.WellFormed := by
  obtain ⟨outcomes, houtcomes, hparse, wellFormed⟩ := parse_wellFormed
    Sample.secondDay_hasYesterday (some "timestamp:<yesterday \"\" n:>5".toList)
  have hlength : ((parseGiven (some "timestamp:<yesterday \"\" n:>5".toList)
      Sample.secondDay).toOption.map List.length) = some 2 := by
    decide +kernel
  rw [hparse] at hlength
  exact ⟨Sample.secondDay_hasYesterday, outcomes, houtcomes, hparse, Option.some.inj hlength,
    fun t ht => (wellFormed t ht).1⟩

end Query

end LogAlert
