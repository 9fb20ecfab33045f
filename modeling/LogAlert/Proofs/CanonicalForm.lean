import LogAlert.Proofs.Classification
import LogAlert.Query.Canonical

/-!
# The canonical form is read back

The tokens of a query are written as a query again, and this is read as the same tokens at any
time.  The exceptions are moments whose text is not read back, and values that are a run and a
line feed: they look bare to the writer, and the scanner leaves the line feed out.

## Main definitions

* `Filter.Restorable` : the filters that are read back.

## Main results

* `Query.render_spec` : one token.
* `Query.canonical_form` : the canonical form of a query.
-/

namespace LogAlert

open Lexeme Query

/-- A run that one line feed follows. -/
def Query.RunAndNewline (cs : List Char) : Prop :=
  ∃ run, IsRun run ∧ cs = run ++ ['\n']

/-- Whether a filter's text is read back. -/
def Filter.Restorable : Filter → Prop
  | .timestamp _ m => m.Restorable
  | .metadata _ .eq value => ¬RunAndNewline value.toList
  | .source pattern => ¬RunAndNewline pattern.toList
  | _ => True

namespace Query

variable {cs key : List Char} {now : Moment} {excluded : Bool}

/-! ### Values -/

theorem replace_absent {c : Char} (new : List Char) (h : c ∉ cs) : Text.replace c new cs = cs := by
  induction cs with
  | nil => rfl
  | cons d cs ih =>
    obtain ⟨hd, hcs⟩ := not_or.mp (mt List.mem_cons.mpr h)
    have hne : (d == c) = false := beq_false_of_ne (Ne.symm hd)
    have htail := ih hcs
    rw [Text.replace] at htail ⊢
    rw [List.flatMap_cons, htail, hne]
    rfl

theorem quote_plain (h : '"' ∉ cs) : quote cs = '"' :: (cs ++ ['"']) := by
  rw [quote, replace_absent _ h]

/-- A value that passes for bare is a run, or a run and a line feed. -/
theorem bare_fits (h : Body.bare.fits cs) : IsRun cs ∨ RunAndNewline cs := by
  rw [Body.fits] at h
  split at h
  · next n hlength =>
    obtain ⟨hrun, -, -⟩ := runLength?_spec hlength
    have hsplit := List.take_append_drop n cs
    rw [Bool.or_eq_true, beq_iff_eq, beq_iff_eq] at h
    rcases h with h | h
    · rw [h, List.append_nil] at hsplit
      rw [hsplit] at hrun
      exact .inl hrun
    · rw [h] at hsplit
      exact .inr ⟨cs.take n, hrun, hsplit.symm⟩
  · cases h

/-- A value is written so that it is read back. -/
theorem valueText_spec (plain : '"' ∉ cs) (h : ¬RunAndNewline cs) :
    ∃ b, Comparand b (valueText cs) ∧ Operator.extract (valueText cs) = (.eq, valueText cs) ∧
      unquote (valueText cs) = cs := by
  rw [valueText]
  split
  · next hfits =>
    have hrun := (bare_fits hfits).resolve_right h
    exact ⟨_, .bare hrun, extract_run hrun, unquote_run hrun⟩
  · rw [quote_plain plain]
    exact ⟨_, .quoted plain, rfl, unquote_quoted plain⟩

/-- A value under an operator is written so that it is read back. -/
theorem operandText_spec {op : Operator} (operand : Operand op cs)
    (h : op = .eq → ¬RunAndNewline cs) :
    ∃ b raw, Comparand b (op.symbol.toList ++ if op == .eq then valueText cs else cs) ∧
      Operator.extract (op.symbol.toList ++ if op == .eq then valueText cs else cs) = (op, raw) ∧
      unquote raw = cs := by
  by_cases hop : op = .eq
  · subst hop
    obtain ⟨b, value, hextract, hread⟩ := valueText_spec operand.plain (h rfl)
    exact ⟨b, _, value, hextract, hread⟩
  · have hrun := operand.bare hop
    rw [beq_false_of_ne hop, if_neg Bool.false_ne_true]
    exact ⟨_, cs, .compared hop hrun, extract_symbol hrun, unquote_run hrun⟩

/-! ### Filters -/

theorem fieldName_known : fieldName "level".toList = "level" ∧
    fieldName "timestamp".toList = "timestamp" ∧ fieldName "source".toList = "source" := by
  decide

/-- What writing and reading a filter comes to: its text is spelled as a body, and reading it gives
an equal filter with the same text. -/
structure ReadsBack (excluded : Bool) (f : Filter) (text : List Char) : Prop where
  written : renderFilter f = .ok text
  minus : excluded ∨ text.head? ≠ some '-'
  spelled : ∃ b : Body, b.Spelled text
  read : ∃ f', (∀ now, classifyBody text now = .ok (some f')) ∧ f'.same f ∧
    renderFilter f' = .ok text

theorem same_refl (f : Filter) : f.same f := by
  cases f with
  | timestamp op m => simp [Filter.same, Moment.same, Moment.comparable]
  | term | phrase | metadata | level | source => exact beq_self_eq_true _

theorem readsBack_word {text : String} (run : IsRun text.toList)
    (minus : excluded ∨ text.toList.head? ≠ some '-') :
    ReadsBack excluded (.term text) text.toList where
  written := rfl
  minus := minus
  spelled := ⟨_, .bare run⟩
  read := by
    refine ⟨.term text, fun now => ?_, same_refl _, rfl⟩
    rw [classifyBody_run run, String.ofList_toList]

theorem readsBack_phrase {text : String} (nonempty : text.toList ≠ []) (plain : '"' ∉ text.toList) :
    ReadsBack excluded (.phrase text) ('"' :: (text.toList ++ ['"'])) where
  written := congrArg Except.ok (quote_plain plain)
  minus := .inr (by simp)
  spelled := ⟨_, .quoted plain⟩
  read := by
    refine ⟨.phrase text, fun now => ?_, same_refl _, congrArg Except.ok (quote_plain plain)⟩
    have hempty : text.toList.isEmpty = false := by rwa [List.isEmpty_eq_false_iff]
    rw [classifyBody_quoted plain, hempty, if_neg Bool.false_ne_true, String.ofList_toList]

theorem head?_key {key : List Char} (run : IsRun key) (rest : List Char) :
    (key ++ ':' :: rest).head? = key.head? :=
  List.head?_append_of_ne_nil _ run.1

theorem readsBack_metadata {key value : String} {op : Operator} (run : IsRun key.toList)
    (minus : excluded ∨ key.toList.head? ≠ some '-')
    (field : fieldName key.toList ∉ ["level", "timestamp", "source"])
    (operand : Operand op value.toList) (h : (Filter.metadata key op value).Restorable) :
    ∃ text, ReadsBack excluded (.metadata key op value) text := by
  have hvalue : op = .eq → ¬RunAndNewline value.toList := by
    rintro rfl
    exact h
  obtain ⟨b, raw, hcomparand, hextract, hread⟩ := operandText_spec operand hvalue
  have hwritten : renderFilter (.metadata key op value) = .ok (key.toList ++ ':' ::
      (op.symbol.toList ++ if op == .eq then valueText value.toList else value.toList)) := by
    rw [renderFilter, List.append_assoc]
    rfl
  refine ⟨_, hwritten, ?_, ⟨b, .pair run hcomparand⟩, .metadata key op value, fun now => ?_,
    same_refl _, hwritten⟩
  · rwa [head?_key run]
  · rw [classifyBody_metadata now run field hcomparand hextract, hread, String.ofList_toList]

theorem readsBack_level {name : String} (known : name ∈ Level.names) :
    ReadsBack excluded (.level name) ("level".toList ++ ':' :: name.toList) := by
  have hkey : IsRun "level".toList := isRun_of_all (by decide) (by decide)
  have hname : IsRun name.toList ∧
      levelOf? (String.ofList (Text.lower name.toList)) = some name := by
    have hall : ∀ name ∈ Level.names, (name.toList ≠ [] ∧ name.toList.all isBare = true) ∧
        levelOf? (String.ofList (Text.lower name.toList)) = some name := by
      decide
    obtain ⟨⟨hne, hbare⟩, hlevel⟩ := hall name known
    exact ⟨isRun_of_all hne hbare, hlevel⟩
  refine ⟨rfl, .inr ?_, ⟨_, .pair hkey (.bare hname.1)⟩, .level name, fun now => ?_,
    same_refl _, rfl⟩
  · rw [head?_key hkey]
    decide
  · rw [classifyBody_pair hkey (.bare hname.1), classifyPair_append hkey (extract_run hname.1),
      fieldName_known.1, unquote_run hname.1, hname.2]
    rfl

/-- A comparison of the time with a text that begins with a digit. -/
theorem timestampText_spec (op : Operator) {c : Char} (digit : c.isDigit)
    (bare : ∀ d ∈ c :: cs, isBare d) :
    ∃ text, text = "timestamp".toList ++ ':' :: (op.symbol.toList ++ c :: cs) ∧
      text.head? ≠ some '-' ∧ (∃ b : Body, b.Spelled text) ∧ ∀ now, classifyBody text now =
        .ok ((Instant.readAbsolute? (c :: cs)).map (.timestamp op)) := by
  have hrun : IsRun (c :: cs) := ⟨List.cons_ne_nil _ _, bare⟩
  have hkey : IsRun "timestamp".toList := isRun_of_all (by decide) (by decide)
  obtain ⟨b, hcomparand⟩ : ∃ b, Comparand b (op.symbol.toList ++ c :: cs) := by
    by_cases hop : op = .eq
    · subst hop
      exact ⟨_, .bare hrun⟩
    · exact ⟨_, .compared hop hrun⟩
  refine ⟨_, rfl, ?_, ⟨b, .pair hkey hcomparand⟩, fun now => ?_⟩
  · rw [head?_key hkey]
    decide
  · rw [classifyBody_pair hkey hcomparand, classifyPair_append hkey (extract_symbol hrun),
      fieldName_known.2.1, unquote_run hrun, Instant.read_of_digit digit bare]
    rfl

theorem renderFilter_timestamp {op : Operator} {m : Moment} (h : instantText m = .ok cs) :
    renderFilter (.timestamp op m) =
      .ok ("timestamp".toList ++ ':' :: (op.symbol.toList ++ cs)) := by
  rw [renderFilter, h]
  rfl

theorem readsBack_timestamp {op : Operator} {m : Moment} (aware : m.isAware)
    (h : (Filter.timestamp op m).Restorable) :
    ∃ text, ReadsBack excluded (.timestamp op m) text := by
  obtain ⟨utc, text, hm, hutc, -, hsame, reads⟩ := instantText_spec aware h
  obtain ⟨c, cs, rfl, digit⟩ := reads.digit
  obtain ⟨text, rfl, hhead, hspelled, hread⟩ := timestampText_spec op digit reads.bare
  refine ⟨_, renderFilter_timestamp hm, .inr hhead, hspelled, .timestamp op utc, fun now => ?_, ?_,
    renderFilter_timestamp hutc⟩
  · rw [hread now, reads.reads]
    rfl
  · rw [Filter.same, hsame, beq_self_eq_true]
    rfl

theorem readsBack_source {pattern : String} (plain : '"' ∉ pattern.toList)
    (h : (Filter.source pattern).Restorable) :
    ∃ text, ReadsBack excluded (.source pattern) text := by
  have hkey : IsRun "source".toList := isRun_of_all (by decide) (by decide)
  obtain ⟨b, hcomparand, hextract, hread⟩ := valueText_spec plain h
  refine ⟨"source".toList ++ ':' :: valueText pattern.toList, rfl, .inr ?_,
    ⟨b, .pair hkey hcomparand⟩, .source pattern, fun now => ?_, same_refl _, rfl⟩
  · rw [head?_key hkey]
    decide
  · rw [classifyBody_pair hkey hcomparand, classifyPair_append hkey hextract, fieldName_known.2.2,
      hread, String.ofList_toList]
    rfl

/-- Every sound filter apart from the terms that begin with a colon is read back by itself. -/
theorem readsBack {f : Filter} (sound : f.Sound excluded) (h : f.Restorable) :
    (∃ text, ReadsBack excluded f text) ∨ excluded = true ∧ ∃ (text : String) (b : Body)
      (cs : List Char), f = .term text ∧ text.toList = ':' :: cs ∧ Comparand b cs := by
  cases sound with
  | word run minus => exact .inl ⟨_, readsBack_word run minus⟩
  | colon written value minus => exact .inr ⟨minus, _, _, _, rfl, written, value⟩
  | phrase nonempty plain => exact .inl ⟨_, readsBack_phrase nonempty plain⟩
  | metadata run minus field operand => exact .inl (readsBack_metadata run minus field operand h)
  | level known => exact .inl ⟨_, readsBack_level known⟩
  | timestamp aware => exact .inl (readsBack_timestamp aware h)
  | source plain => exact .inl (readsBack_source plain h)

/-! ### Tokens -/

/-- What writing and reading a token comes to. -/
structure TokenReadsBack (t : Token) (l : Lexeme) (again : Token) : Prop where
  written : render t = .ok l.text
  spelled : l.shape.Spelled l.text
  read : ∀ now, classify l.text now = .ok (some again)
  same : again.same t
  stable : render again = .ok l.text

theorem render_of_filter {f : Filter} (h : renderFilter f = .ok cs) :
    render ⟨excluded, f⟩ = .ok (if excluded then '-' :: cs else cs) := by
  rw [render, h]
  rfl

/-- A spelled body with a minus sign or without one is a lexeme, and is classified by the body. -/
theorem lexeme_of_body {b : Body} (minus : excluded ∨ cs.head? ≠ some '-')
    (spelled : b.Spelled cs) :
    Shape.Spelled ⟨excluded, b⟩ (if excluded then '-' :: cs else cs) ∧
      ∀ now filter, classifyBody cs now = .ok filter →
        classify (if excluded then '-' :: cs else cs) now = .ok (filter.map (⟨excluded, ·⟩)) := by
  cases excluded with
  | true => exact ⟨.negated spelled, fun now filter => classify_minus⟩
  | false =>
    have hhead := minus.resolve_left Bool.false_ne_true
    refine ⟨.plain spelled fun rest hrest => ?_, fun now filter => classify_plain hhead⟩
    have hcs : cs = '-' :: rest := hrest
    exact absurd (congrArg List.head? hcs) hhead

/-- **A sound token is read back** at any time, from a text that is one lexeme. -/
theorem render_spec {t : Token} (sound : t.Sound) (h : t.filter.Restorable) :
    ∃ l again, TokenReadsBack t l again := by
  obtain ⟨excluded, f⟩ := t
  rcases readsBack sound h with ⟨text, back⟩ | ⟨hexcluded, text, b, cs, rfl, htext, value⟩
  · obtain ⟨written, minus, ⟨b, spelled⟩, f', read, same, stable⟩ := back
    obtain ⟨hspelled, hclassify⟩ := lexeme_of_body minus spelled
    have hsame : Token.same ⟨excluded, f'⟩ ⟨excluded, f⟩ := by
      rw [Token.same, same, beq_self_eq_true]
      rfl
    exact ⟨⟨⟨excluded, b⟩, if excluded then '-' :: text else text⟩, ⟨excluded, f'⟩,
      render_of_filter written, hspelled, fun now => hclassify now _ (read now), hsame,
      render_of_filter stable⟩
  · -- the minus sign is the key of the pair that the term came from
    subst hexcluded
    have hwritten : render ⟨true, .term text⟩ = .ok ('-' :: ':' :: cs) := by
      rw [← htext]
      rfl
    refine ⟨⟨⟨false, b⟩, '-' :: ':' :: cs⟩, ⟨true, .term text⟩, hwritten, ?_, fun now => ?_, ?_,
      hwritten⟩
    · refine .plain (.pair isRun_minus value) fun rest hrest => ?_
      obtain rfl := (List.cons.inj hrest).2
      exact stops_cons (by decide) cs
    · have hread := classify_minus (@classifyBody_colon now cs)
      rw [← htext, String.ofList_toList] at hread
      rw [← htext]
      exact hread
    · rw [Token.same, same_refl, beq_self_eq_true]
      rfl

theorem renderAll_spec {tokens : List Token} (sound : ∀ t ∈ tokens, t.Sound)
    (h : ∀ t ∈ tokens, t.filter.Restorable) :
    ∃ (lexemes : List Lexeme) (again : List Token),
      renderAll tokens = .ok (lexemes.map (·.text)) ∧ (∀ l ∈ lexemes, l.shape.Spelled l.text) ∧
      (∀ now, classifyAll now (lexemes.map (·.text)) = .ok again) ∧ Token.sameAll again tokens ∧
      renderAll again = .ok (lexemes.map (·.text)) := by
  induction tokens with
  | nil => exact ⟨[], [], rfl, fun l hl => (nomatch hl), fun now => rfl, rfl, rfl⟩
  | cons t tokens ih =>
    obtain ⟨ht, htokens⟩ := List.forall_mem_cons.mp sound
    obtain ⟨ht', htokens'⟩ := List.forall_mem_cons.mp h
    obtain ⟨l, t', written, spelled, read, same, stable⟩ := render_spec ht ht'
    obtain ⟨lexemes, tokens', hwritten, hspelled, hread, hsame, hstable⟩ := ih htokens htokens'
    refine ⟨l :: lexemes, t' :: tokens', ?_, List.forall_mem_cons.mpr ⟨spelled, hspelled⟩,
      fun now => ?_, ?_, ?_⟩
    · rw [renderAll, written, hwritten]
      rfl
    · rw [List.map_cons, classifyAll, read now, hread now]
      rfl
    · rw [Token.sameAll, same, hsame]
      rfl
    · rw [renderAll, stable, hstable]
      rfl

/-- **The canonical form of a query is read back.**  Reading a query at a current time does not
fail.  If the text of each of its tokens is read back, then the tokens are written as a query, which
at any time is read as the same tokens, in the same order, and these are written as the same query
again. -/
theorem canonical_form {now : Moment} (hnow : now.Current) (query : List Char) (later : Moment) :
    ∃ tokens, parse query now = .ok tokens ∧ ((∀ t ∈ tokens, t.filter.Restorable) →
      ∃ text again, toQuery tokens = .ok text ∧ parse text later = .ok again ∧
        Token.sameAll again tokens ∧ toQuery again = .ok text) := by
  obtain ⟨tokens, hparse, sound⟩ := parse_sound hnow query
  refine ⟨tokens, hparse, fun restorable => ?_⟩
  obtain ⟨lexemes, again, hwritten, hspelled, hread, hsame, hstable⟩ :=
    renderAll_spec sound restorable
  refine ⟨Text.join [' '] (lexemes.map (·.text)), again, ?_, ?_, hsame, ?_⟩
  · rw [toQuery, hwritten]
    rfl
  · rw [parse, tokenize_join hspelled, hread later]
  · rw [toQuery, hstable]
    rfl

namespace Sample

/-- A query with a token of each kind. -/
def query : List Char :=
  ("err -\"a b\" -user:\"x > y\" n:>5 level:err timestamp:<20250102T030405Z source:\"api*\" " ++
    "-:<9").toList

/-- The tokens of the query. -/
def tokens : List Token :=
  [⟨false, .term "err"⟩, ⟨true, .phrase "a b"⟩, ⟨true, .metadata "user" .eq "x > y"⟩,
    ⟨false, .metadata "n" .gt "5"⟩, ⟨false, .level "error"⟩,
    ⟨false, .timestamp .lt ⟨63871383845000000, some 0⟩⟩, ⟨false, .source "api*"⟩,
    ⟨true, .term ":<9"⟩]

theorem tokens_restorable : ∀ t ∈ tokens, t.filter.Restorable := by
  have hlast {cs : List Char} (h : cs.getLast? ≠ some '\n') : ¬RunAndNewline cs := by
    rintro ⟨run, -, rfl⟩
    exact h List.getLast?_concat
  have hinstant : (Moment.mk 63871383845000000 (some 0)).Restorable :=
    ⟨⟨63871383845000000, some 0⟩, by decide⟩
  simp only [tokens, List.forall_mem_cons]
  exact ⟨trivial, trivial, hlast (by decide), trivial, trivial, hinstant, hlast (by decide),
    trivial, fun t ht => nomatch ht⟩

end Sample

theorem canonical_form_of_sample :
    Moment.Current ⟨63888000000000000, some 0⟩ ∧
      parse Sample.query ⟨63888000000000000, some 0⟩ = .ok Sample.tokens ∧
      (∀ t ∈ Sample.tokens, t.filter.Restorable) ∧
      ∃ text again, toQuery Sample.tokens = .ok text ∧
        parse text (.midnight ⟨9999, 12, 31⟩) = .ok again ∧
        Token.sameAll again Sample.tokens ∧ toQuery again = .ok text := by
  have hnow : Moment.Current ⟨63888000000000000, some 0⟩ :=
    ⟨rfl, by decide, by decide⟩
  have hread : (parse Sample.query ⟨63888000000000000, some 0⟩).toOption = some Sample.tokens := by
    decide +kernel
  have hparse : parse Sample.query ⟨63888000000000000, some 0⟩ = .ok Sample.tokens := by
    cases h : parse Sample.query ⟨63888000000000000, some 0⟩ with
    | error e =>
      rw [h] at hread
      cases hread
    | ok tokens =>
      rw [h] at hread
      exact congrArg Except.ok (Option.some.inj hread)
  obtain ⟨tokens, htokens, back⟩ :=
    canonical_form hnow Sample.query (.midnight ⟨9999, 12, 31⟩)
  rw [hparse] at htokens
  obtain rfl := Except.ok.inj htokens
  exact ⟨hnow, hparse, Sample.tokens_restorable, back Sample.tokens_restorable⟩

end Query

end LogAlert
