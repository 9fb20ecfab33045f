import LogAlert.Proofs.Conjunction

/-!
# Excluded lexemes

A minus sign in front of a lexeme that has none makes one lexeme of it again.  It is dropped if the
lexeme is dropped, and otherwise read as the same filter, excluded.  What it finds in a log store is
then exactly what the lexeme does not find.

## Main definitions

* `Token.opposite` : the token with the same filter that is answered the other way.
* `LogStore.Splits` : two lists that share the records of a store between them.

## Main results

* `Lexeme.tokenize_eq_singleton_iff` : the texts that are one lexeme.
* `LogStore.Answerable.splits` : a token and its opposite split a store.
* `Query.excludes_complement` : a lexeme, and the lexeme with a minus sign in front of it.
-/

namespace LogAlert

/-! ### Lexemes -/

namespace Lexeme

variable {s : Shape} {cs : List Char}

/-- A text is its own only lexeme exactly if it is spelled as some shape demands. -/
theorem tokenize_eq_singleton_iff : tokenize cs = [cs] ↔ ∃ s : Shape, s.Spelled cs := by
  constructor
  · intro h
    obtain ⟨l, hscan, htext⟩ := List.map_eq_singleton_iff.mp h
    have hl : l ∈ scan (Text.strip cs) := by
      rw [hscan]
      exact List.mem_singleton_self l
    have spelled := scan_spelled _ l hl
    rw [htext] at spelled
    exact ⟨l.shape, spelled⟩
  · rintro ⟨s, spelled⟩
    exact @tokenize_join [⟨s, cs⟩] fun l hl => by rwa [List.mem_singleton.mp hl]

/-- A lexeme without a minus sign in front is all body. -/
theorem Shape.Spelled.body_spelled (h : s.Spelled cs) (plain : cs.head? ≠ some '-') :
    s.body.Spelled cs := by
  cases h with
  | negated body => exact absurd rfl plain
  | plain body => exact body

end Lexeme

/-! ### Tokens -/

/-- The token with the same filter that is answered the other way. -/
def Token.opposite (t : Token) : Token :=
  { t with excluded := !t.excluded }

/-- A record answers exactly one of a token and its opposite, and if one fails on it, both do. -/
theorem Token.holds_opposite (t : Token) (r : Record) :
    t.opposite.holds r = (t.holds r).map (!·) := by
  rw [Token.holds, Token.holds, opposite]
  cases t.filter.holds r with
  | error e => rfl
  | ok b => exact congrArg Except.ok (Bool.bne_not ..)

/-- To answer one token is to answer the list of it. -/
theorem Record.answers_of_holds {t : Token} {r : Record} {b : Bool} (h : t.holds r = .ok b) :
    r.answers [t] = b := by
  rw [answers, Token.holdAll, h]
  cases b <;> rfl

/-! ### Stores -/

namespace LogStore

variable {s : LogStore} {t : Token}

/-- Each record of the store is in exactly one of two lists, which keep the order of the store. -/
structure Splits (s : LogStore) (found others : List Record) : Prop where
  found_sublist : found.Sublist s.records
  others_sublist : others.Sublist s.records
  disjoint : ∀ r ∈ found, r ∉ others
  whole : (found ++ others).Perm s.records

/-- A list is split into what satisfies a condition and what does not. -/
theorem splits_filter (s : LogStore) (p : Record → Bool) :
    s.Splits (s.records.filter p) (s.records.filter (!p ·)) where
  found_sublist := List.filter_sublist
  others_sublist := List.filter_sublist
  disjoint r hr hr' := by
    have hp := (List.mem_filter.mp hr).2
    have hp' := (List.mem_filter.mp hr').2
    rw [hp] at hp'
    cases hp'
  whole := List.filter_append_perm p s.records

theorem Answerable.opposite (h : s.Answerable [t]) : s.Answerable [t.opposite] := by
  intro r hr u hu
  obtain rfl := List.mem_singleton.mp hu
  obtain ⟨b, hb⟩ := h r hr t List.mem_cons_self
  exact ⟨!b, by rw [Token.holds_opposite, hb]; rfl⟩

theorem Answerable.answers_opposite (h : s.Answerable [t]) {r : Record} (hr : r ∈ s.records) :
    r.answers [t.opposite] = !r.answers [t] := by
  obtain ⟨b, hb⟩ := h r hr t List.mem_cons_self
  have hopposite := t.holds_opposite r
  rw [hb] at hopposite
  rw [Record.answers_of_holds hopposite, Record.answers_of_holds hb]

/-- **A token and its opposite split a store** on which the token has answers. -/
theorem Answerable.splits (h : s.Answerable [t]) :
    ∃ found others, s.search [t] none = .ok found ∧ s.search [t.opposite] none = .ok others ∧
      s.Splits found others := by
  refine ⟨_, _, h.search_eq, h.opposite.search_eq, ?_⟩
  rw [List.filter_congr fun r hr => h.answers_opposite hr]
  exact s.splits_filter _

end LogStore

/-! ### Queries -/

namespace Query

open Lexeme

variable {s : Shape} {b : Body} {cs : List Char} {now : Moment}

/-- A query that is one lexeme is read as the token of this lexeme, if it has one. -/
theorem parse_of_spelled (h : s.Spelled cs) {token : Option Token}
    (hread : classify cs now = .ok token) : parse cs now = .ok token.toList := by
  rw [parse, tokenize_eq_singleton_iff.mpr ⟨s, h⟩, classifyAll, classifyAll, hread]
  exact congrArg Except.ok (List.append_nil _)

/-- Two queries are read as a filter and its exclusion.  A record on which the filter does not fail
answers exactly one of the two, and the queries split every store on which it does not fail. -/
structure Excludes (positive negative : List Char) (now : Moment) (filter : Filter) : Prop where
  reads : classify positive now = .ok (some ⟨false, filter⟩)
  reads_excluded : classify negative now = .ok (some ⟨true, filter⟩)
  answers_one : ∀ r answer, Token.holds ⟨false, filter⟩ r = .ok answer →
    Token.holds ⟨true, filter⟩ r = .ok (!answer)
  splits : ∃ tokens excluded, parse positive now = .ok tokens ∧ parse negative now = .ok excluded ∧
    ∀ s : LogStore, (∀ r ∈ s.records, ∃ answer, Token.holds ⟨false, filter⟩ r = .ok answer) →
      ∃ found others, s.search tokens none = .ok found ∧ s.search excluded none = .ok others ∧
        s.Splits found others

theorem excludes_of_body {filter : Filter} (body : b.Spelled cs) (plain : cs.head? ≠ some '-')
    (hbody : classifyBody cs now = .ok (some filter)) : Excludes cs ('-' :: cs) now filter where
  reads := classify_plain plain hbody
  reads_excluded := classify_minus hbody
  answers_one r answer h := by
    have hopposite := Token.holds_opposite ⟨false, filter⟩ r
    rw [h] at hopposite
    exact hopposite
  splits := by
    -- the body has no sign, so the shape without one asks nothing of what is behind a sign
    have minus : ∀ rest, cs = '-' :: rest → Stops rest := fun rest heq =>
      absurd (congrArg List.head? heq) plain
    refine ⟨_, _, parse_of_spelled (.plain body minus) (classify_plain plain hbody),
      parse_of_spelled (.negated body) (classify_minus hbody), fun s answers => ?_⟩
    refine LogStore.Answerable.splits (t := ⟨false, filter⟩) fun r hr t ht => ?_
    rw [List.mem_singleton.mp ht]
    exact answers r hr

/-- **A minus sign in front of a lexeme** that has none makes it one lexeme again.  At a time whose
day before is in the calendar both are dropped, or both are read, as a filter and its exclusion.
Then a record answers exactly one of the two, unless the filter fails on it, and what the two find
in a store on which it does not fail are two disjoint parts that together are the whole store. -/
theorem excludes_complement (alone : tokenize cs = [cs]) (plain : cs.head? ≠ some '-')
    (hnow : now.HasYesterday) :
    tokenize ('-' :: cs) = ['-' :: cs] ∧
      (classify cs now = .ok none ∧ classify ('-' :: cs) now = .ok none ∨
        ∃ filter, Excludes cs ('-' :: cs) now filter) := by
  obtain ⟨s, spelled⟩ := tokenize_eq_singleton_iff.mp alone
  have body := spelled.body_spelled plain
  obtain ⟨filter, hbody, -⟩ : ∃ filter, classifyBody cs now = .ok filter ∧
      ∀ f ∈ filter, f.Sound false := classifyBody_sound hnow body (.inr plain)
  refine ⟨tokenize_eq_singleton_iff.mpr ⟨_, .negated body⟩, ?_⟩
  cases filter with
  | none => exact .inl ⟨classify_plain plain hbody, classify_minus hbody⟩
  | some filter => exact .inr ⟨filter, excludes_of_body body plain hbody⟩

namespace Sample

/-- A lexeme about the source of records, with a gap. -/
def sources : List Char := "source:\"a*i\"".toList

theorem tokenize_sources : tokenize sources = [sources] := by
  decide +kernel

theorem classify_sources : classify sources Sample.reading = .ok (some ⟨false, .source "a*i"⟩) :=
  rfl

end Sample

theorem excludes_complement_of_sources :
    tokenize Sample.sources = [Sample.sources] ∧ Sample.sources.head? ≠ some '-' ∧
      Sample.reading.HasYesterday ∧ tokenize ('-' :: Sample.sources) = ['-' :: Sample.sources] ∧
      Excludes Sample.sources ('-' :: Sample.sources) Sample.reading (.source "a*i") ∧
      ∃ tokens excluded found others, parse Sample.sources Sample.reading = .ok tokens ∧
        parse ('-' :: Sample.sources) Sample.reading = .ok excluded ∧
        Sample.entries.search tokens none = .ok found ∧
        Sample.entries.search excluded none = .ok others ∧
        Sample.entries.Splits found others ∧ found.map (·.id) = [1, 2] := by
  have plain : Sample.sources.head? ≠ some '-' := by decide
  have hasYesterday := Sample.reading_current.hasYesterday
  obtain ⟨alone, dropped | ⟨filter, excludes⟩⟩ :=
    excludes_complement Sample.tokenize_sources plain hasYesterday
  · cases Sample.classify_sources.symm.trans dropped.1
  · obtain rfl : Filter.source "a*i" = filter := by
      have hread := Sample.classify_sources.symm.trans excludes.reads
      exact congrArg Token.filter (Option.some.inj (Except.ok.inj hread))
    obtain ⟨tokens, excluded, htokens, hexcluded, splits⟩ := excludes.splits
    obtain ⟨found, others, hfound, hothers, split⟩ := splits Sample.entries fun r _ => ⟨_, rfl⟩
    have ids : ((parse Sample.sources Sample.reading).toOption.bind fun tokens =>
        (Sample.entries.search tokens none).toOption.map (·.map (·.id))) = some [1, 2] := by
      decide +kernel
    rw [htokens, Except.toOption, Option.bind_some, hfound] at ids
    exact ⟨Sample.tokenize_sources, plain, hasYesterday, alone, excludes, tokens, excluded, found,
      others, htokens, hexcluded, hfound, hothers, split, Option.some.inj ids⟩

end Query

end LogAlert
