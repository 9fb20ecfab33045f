import LogAlert.Proofs.InstantText
import LogAlert.Proofs.Scanning
import LogAlert.Query.Reading
import LogAlert.Log.Level
import Mathlib.Data.List.Forall2
import Mathlib.Data.List.ReduceOption

/-!
# The tokens of queries

What the reader makes of a spelled lexeme, and which tokens it yields: terms are runs, texts and
patterns hold no quotation marks, keys are not those of the pseudo-fields, and moments have an
offset.

## Main definitions

* `Query.Operand` : the operators and values of filters.
* `Filter.Sound`, `Token.Sound` : the tokens that the reader yields.

## Main results

* `Query.classify_sound` : the reader does not fail on a spelled lexeme and yields a sound token.
* `Query.parse_outcomes`, `Query.parse_sound` : the same for whole queries.
-/

namespace LogAlert.Query

open Lexeme

variable {cs inner run key : List Char} {b : Body} {op : Operator} {now : Moment}

/-! ### Values -/

theorem not_mem_run (h : IsRun run) {c : Char} (hc : isBare c = false) : c ∉ run := fun hmem => by
  have hbare := h.2 c hmem
  rw [hc] at hbare
  cases hbare

theorem unescape_plain (h : '"' ∉ cs) : unescape cs = cs := by
  induction cs using unescape.induct with
  | case1 cs ih => exact absurd (by simp) h
  | case2 c cs hne ih =>
    rw [unescape, ih fun hmem => h (List.mem_cons_of_mem c hmem)]
    exact hne
  | case3 => rfl

theorem stripBy_quoted (h : '"' ∉ inner) :
    Text.stripBy (· == '"') ('"' :: (inner ++ ['"'])) = inner := by
  have hquote : ∀ c ∈ inner, (c == '"') = false := fun c hc =>
    beq_false_of_ne fun heq => h (heq ▸ hc)
  rw [Text.stripBy, List.dropWhile_cons_of_pos (by decide)]
  cases inner with
  | nil => rfl
  | cons c inner =>
    have hfirst : ((c :: inner) ++ ['"']).dropWhile (· == '"') = (c :: inner) ++ ['"'] := by
      rw [List.cons_append, List.dropWhile_cons_of_neg]
      rw [hquote c List.mem_cons_self]
      exact Bool.false_ne_true
    have hlast : (c :: inner).reverse.dropWhile (· == '"') = (c :: inner).reverse := by
      refine List.dropWhile_eq_self_iff.mpr fun hlen => ?_
      rw [hquote _ (List.mem_reverse.mp (List.getElem_mem hlen))]
      exact Bool.false_ne_true
    rw [hfirst, List.reverse_append, List.reverse_cons, List.reverse_nil, List.nil_append,
      List.singleton_append, List.dropWhile_cons_of_pos (by decide), hlast, List.reverse_reverse]

/-- A quoted value is the text between the quotation marks. -/
theorem unquote_quoted (h : '"' ∉ inner) : unquote ('"' :: (inner ++ ['"'])) = inner := by
  have hframed := framed_quoted inner
  rw [unquote, Text.strip_eq_self hframed.first hframed.last, stripBy_quoted h, unescape_plain h]

/-- A framed value without quotation marks is taken as it is. -/
theorem unquote_framed (hframed : Framed cs) (h : '"' ∉ cs) : unquote cs = cs := by
  have hquote (c : Char) (hc : c ∈ cs) : (c == '"') = false :=
    beq_false_of_ne fun heq => h (heq ▸ hc)
  rw [unquote, Text.strip_eq_self hframed.first hframed.last, Text.stripBy_eq_self
    (fun c hc => hquote c (List.mem_of_head? hc)) (fun c hc => hquote c (List.mem_of_getLast? hc)),
    unescape_plain h]

theorem unquote_run (h : IsRun run) : unquote run = run :=
  unquote_framed (framed_run h) (not_mem_run h isBare_quote)

/-- The operator and the value of a filter: a value holds no quotation mark, and it is a run unless
it is compared for equality. -/
structure Operand (op : Operator) (value : List Char) : Prop where
  plain : '"' ∉ value
  bare : op ≠ .eq → IsRun value

theorem extract_symbol (hrun : IsRun run) :
    Operator.extract (op.symbol.toList ++ run) = (op, run) := by
  obtain ⟨c, cs, rfl, hc⟩ := head?_run hrun
  have hne (d : Char) (hd : isBare d = false) : c ≠ d := ne_of_isBare hc hd
  have hequal := hne '=' (by decide)
  have hgreater := hne '>' (by decide)
  have hless := hne '<' (by decide)
  cases op with
  | gte | lte => rfl
  | gt =>
    change Operator.extract ('>' :: c :: cs) = _
    unfold Operator.extract
    split <;> simp_all
  | lt =>
    change Operator.extract ('<' :: c :: cs) = _
    unfold Operator.extract
    split <;> simp_all
  | eq =>
    change Operator.extract (c :: cs) = _
    unfold Operator.extract
    split <;> simp_all

theorem extract_run (hrun : IsRun run) : Operator.extract run = (.eq, run) := by
  have hempty : Operator.extract (Operator.eq.symbol.toList ++ run) = (.eq, run) :=
    extract_symbol hrun
  exact hempty

/-- What is read from a comparand, as a comparison and as a pattern. -/
theorem comparand_spec (h : Comparand b cs) :
    ∃ op raw, Operator.extract cs = (op, raw) ∧ Operand op (unquote raw) ∧ '"' ∉ unquote cs := by
  cases h with
  | quoted plain =>
    refine ⟨.eq, _, rfl, ?_, by rwa [unquote_quoted plain]⟩
    rw [unquote_quoted plain]
    exact ⟨plain, fun h => absurd rfl h⟩
  | @compared op run sign hrun =>
    have hplain := not_mem_run hrun isBare_quote
    refine ⟨op, run, extract_symbol hrun, ?_, ?_⟩
    · rw [unquote_run hrun]
      exact ⟨hplain, fun _ => hrun⟩
    · have hsymbol : '"' ∉ op.symbol.toList := fun h => (isBare_symbol op _ h).2 rfl
      have hframed : Framed (op.symbol.toList ++ run) := by
        refine ⟨List.append_ne_nil_of_right_ne_nil _ hrun.1, fun c hc => ?_, fun c hc => ?_⟩
        · have hblank : op.symbol.toList.all (fun c => !Text.isBlank c) = true := by
            cases op <;> decide
          rcases List.mem_append.mp (List.mem_of_head? hc) with hc | hc
          · simpa using List.all_eq_true.mp hblank c hc
          · exact Text.isBlank_of_isBare (hrun.2 c hc)
        · rw [List.getLast?_append_of_ne_nil _ hrun.1] at hc
          exact (framed_run hrun).last c hc
      have hmem : '"' ∉ op.symbol.toList ++ run := fun h =>
        (List.mem_append.mp h).elim hsymbol hplain
      rwa [unquote_framed hframed hmem]
  | bare hrun =>
    have hplain := not_mem_run hrun isBare_quote
    refine ⟨.eq, cs, extract_run hrun, ?_, ?_⟩
    · rw [unquote_run hrun]
      exact ⟨hplain, fun h => absurd rfl h⟩
    · rwa [unquote_run hrun]

/-! ### Bodies -/

theorem isPair_pair (hrun : IsRun key) (value : Comparand b cs) : isPair (key ++ ':' :: cs) := by
  have hfits : b.fits (key ++ ':' :: cs) := by
    have hlength := (Body.Spelled.pair hrun value).length?_append (.inl rfl)
    rw [List.append_nil] at hlength
    rw [Body.fits, hlength]
    dsimp only
    rw [List.drop_length]
    rfl
  exact List.any_eq_true.mpr ⟨b, value.mem_pairs, hfits⟩

theorem isPair_of_length? (h : ∀ b ∈ Body.pairs, b.length? cs = none) : isPair cs = false := by
  refine List.any_eq_false.mpr fun b hb => ?_
  rw [Body.fits, h b hb]
  exact Bool.false_ne_true

theorem isPair_other (spelled : b.Spelled cs) (h : b ∉ Body.pairs) : isPair cs = false := by
  refine isPair_of_length? fun other hother => ?_
  have hnone := spelled.length?_other (.inl rfl) (fun heq => h (heq ▸ hother))
    (fun heq => absurd hother (heq ▸ by decide))
  rwa [List.append_nil] at hnone

theorem isPair_colon (cs : List Char) : isPair (':' :: cs) = false :=
  isPair_of_length? fun other _ => other.length?_of_stops (stops_cons (by decide) cs) (by simp)

theorem isQuoted_of_head {c : Char} (h : c ≠ '"') (cs : List Char) :
    isQuoted (c :: cs) = false := by
  rw [isQuoted, List.head?_cons, decide_eq_false (fun heq => h (Option.some.inj heq)),
    Bool.and_false, Bool.false_and]

theorem classifyBody_pair (hrun : IsRun key) (value : Comparand b cs) :
    classifyBody (key ++ ':' :: cs) now = classifyPair (key ++ ':' :: cs) now := by
  rw [classifyBody, if_pos (isPair_pair hrun value)]

theorem classifyBody_quoted (plain : '"' ∉ inner) :
    classifyBody ('"' :: (inner ++ ['"'])) now =
      .ok (if inner.isEmpty then none else some (.phrase (String.ofList inner))) := by
  have hquoted : isQuoted ('"' :: (inner ++ ['"'])) = true := by
    have hlast : ('"' :: (inner ++ ['"'])).getLast? = some '"' := by
      rw [← List.cons_append, List.getLast?_concat]
    rw [isQuoted, hlast, List.length_cons, List.length_append]
    simp
  rw [classifyBody, isPair_other (.quoted plain) (by decide), if_neg Bool.false_ne_true,
    if_pos hquoted, classifyPhrase, unquote_quoted plain]

theorem classifyBody_run (hrun : IsRun run) :
    classifyBody run now = .ok (some (.term (String.ofList run))) := by
  have hpair := isPair_other (.bare hrun) (by decide)
  obtain ⟨c, cs, rfl, hc⟩ := head?_run hrun
  rw [classifyBody, hpair, isQuoted_of_head (ne_of_isBare hc isBare_quote)]
  rfl

/-- A pair whose key is the minus sign that excludes it is a term that begins with the colon. -/
theorem classifyBody_colon (cs : List Char) :
    classifyBody (':' :: cs) now = .ok (some (.term (String.ofList (':' :: cs)))) := by
  rw [classifyBody, isPair_colon, isQuoted_of_head (by decide)]
  rfl

theorem splitPair_append (hrun : IsRun key) (cs : List Char) :
    splitPair (key ++ ':' :: cs) = (key, cs) := by
  have hne : ∀ c ∈ key, (c != ':') = true := fun c hc =>
    bne_iff_ne.mpr (ne_of_isBare (hrun.2 c hc) (by decide))
  rw [splitPair, List.takeWhile_append_of_pos hne, List.dropWhile_append_of_pos hne,
    List.takeWhile_cons_of_neg (by decide), List.dropWhile_cons_of_neg (by decide),
    List.append_nil]
  rfl

/-- The name of the field that a key stands for. -/
def fieldName (key : List Char) : String :=
  String.ofList (Text.lower key)

/-- The filter of a pair by its field. -/
theorem classifyPair_append (hrun : IsRun key) {raw : List Char}
    (hextract : Operator.extract cs = (op, raw)) :
    classifyPair (key ++ ':' :: cs) now =
      if fieldName key == "level" then
        .ok ((levelOf? (String.ofList (Text.lower (unquote raw)))).map .level)
      else if fieldName key == "timestamp" then do
        let instant ← Instant.read (unquote raw) now
        .ok (instant.map (.timestamp op))
      else if fieldName key == "source" then
        .ok (some (.source (String.ofList (unquote cs))))
      else
        .ok (some (.metadata (String.ofList key) op (String.ofList (unquote raw)))) := by
  rw [classifyPair, splitPair_append hrun]
  dsimp only
  rw [hextract]
  rfl

/-- A pair whose key is not that of a pseudo-field is a filter on metadata. -/
theorem classifyBody_metadata (now : Moment) {name : String} {raw : List Char}
    (run : IsRun name.toList) (field : fieldName name.toList ∉ ["level", "timestamp", "source"])
    (value : Comparand b cs) (hextract : Operator.extract cs = (op, raw)) :
    classifyBody (name.toList ++ ':' :: cs) now =
      .ok (some (.metadata name op (String.ofList (unquote raw)))) := by
  have hlevel : (fieldName name.toList == "level") = false := beq_false_of_ne (by simp_all)
  have htime : (fieldName name.toList == "timestamp") = false := beq_false_of_ne (by simp_all)
  have hsource : (fieldName name.toList == "source") = false := beq_false_of_ne (by simp_all)
  rw [classifyBody_pair run value, classifyPair_append run hextract, hlevel, htime, hsource,
    String.ofList_toList]
  rfl

end LogAlert.Query

namespace LogAlert

open Lexeme Query

/-! ### Sound tokens -/

/-- The filters that the reader yields.  `excluded` tells whether a minus sign precedes them. -/
inductive Filter.Sound (excluded : Bool) : Filter → Prop where
  /-- A bare word.  A minus sign at its front has excluded it. -/
  | word {text : String} (run : IsRun text.toList)
      (minus : excluded ∨ text.toList.head? ≠ some '-') : Filter.Sound excluded (.term text)
  /-- What follows the minus sign of a pair without another key. -/
  | colon {b : Body} {text : String} {cs : List Char} (written : text.toList = ':' :: cs)
      (value : Comparand b cs) (minus : excluded) : Filter.Sound excluded (.term text)
  | phrase {text : String} (nonempty : text.toList ≠ []) (plain : '"' ∉ text.toList) :
      Filter.Sound excluded (.phrase text)
  | metadata {key value : String} {op : Operator} (run : IsRun key.toList)
      (minus : excluded ∨ key.toList.head? ≠ some '-')
      (field : fieldName key.toList ∉ ["level", "timestamp", "source"])
      (operand : Operand op value.toList) : Filter.Sound excluded (.metadata key op value)
  | level {name : String} (known : name ∈ Level.names) : Filter.Sound excluded (.level name)
  | timestamp {op : Operator} {m : Moment} (aware : m.isAware) :
      Filter.Sound excluded (.timestamp op m)
  | source {pattern : String} (plain : '"' ∉ pattern.toList) :
      Filter.Sound excluded (.source pattern)

/-- The tokens that the reader yields. -/
def Token.Sound (t : Token) : Prop :=
  t.filter.Sound t.excluded

namespace Query

variable {cs key : List Char} {b : Body} {now : Moment} {excluded : Bool}

theorem mem_names_of_levelOf? {name level : String} (h : levelOf? name = some level) :
    level ∈ Level.names := by
  have hall : ∀ p ∈ levelNames, p.2 ∈ Level.names := by decide
  obtain ⟨p, hp, rfl⟩ := Option.map_eq_some_iff.mp h
  exact hall p (List.mem_of_find?_eq_some hp)

/-- A pair yields a sound filter or none. -/
theorem classifyPair_sound (hnow : now.HasYesterday) (hrun : IsRun key) (value : Comparand b cs)
    (minus : excluded ∨ key.head? ≠ some '-') :
    ∃ filter, classifyPair (key ++ ':' :: cs) now = .ok filter ∧
      ∀ f ∈ filter, f.Sound excluded := by
  obtain ⟨op, raw, hextract, operand, pattern⟩ := comparand_spec value
  rw [classifyPair_append hrun hextract]
  split
  · refine ⟨_, rfl, fun f hf => ?_⟩
    obtain ⟨level, hlevel, rfl⟩ := Option.map_eq_some_iff.mp hf
    exact .level (mem_names_of_levelOf? hlevel)
  split
  · obtain ⟨instant, hread, haware⟩ := Instant.read_aware hnow (unquote raw)
    rw [hread]
    refine ⟨_, rfl, fun f hf => ?_⟩
    obtain ⟨m, hm, rfl⟩ := Option.map_eq_some_iff.mp hf
    exact .timestamp (haware m hm)
  split
  · refine ⟨_, rfl, fun f hf => ?_⟩
    obtain rfl := Option.some.inj hf
    refine .source ?_
    rwa [String.toList_ofList]
  · next hlevel htime hsource =>
    refine ⟨_, rfl, fun f hf => ?_⟩
    obtain rfl := Option.some.inj hf
    refine .metadata ?_ ?_ ?_ ?_
    · rwa [String.toList_ofList]
    · rwa [String.toList_ofList]
    · rw [beq_iff_eq] at hlevel htime hsource
      rw [String.toList_ofList]
      simp [hlevel, htime, hsource]
    · rwa [String.toList_ofList]

/-- A body yields a sound filter or none. -/
theorem classifyBody_sound (hnow : now.HasYesterday) (h : b.Spelled cs)
    (minus : excluded ∨ cs.head? ≠ some '-') :
    ∃ filter, classifyBody cs now = .ok filter ∧ ∀ f ∈ filter, f.Sound excluded := by
  cases h with
  | @pair _ key comparand run value =>
    rw [classifyBody_pair run value]
    refine classifyPair_sound hnow run value (minus.imp_right fun hne => ?_)
    rwa [List.head?_append_of_ne_nil _ run.1] at hne
  | @quoted inner plain =>
    rw [classifyBody_quoted plain]
    refine ⟨_, rfl, fun f hf => ?_⟩
    split at hf
    · cases hf
    · next hinner =>
      obtain rfl := Option.some.inj hf
      refine .phrase ?_ (by rwa [String.toList_ofList])
      rw [String.toList_ofList]
      rwa [List.isEmpty_iff] at hinner
  | bare run =>
    rw [classifyBody_run run]
    refine ⟨_, rfl, fun f hf => ?_⟩
    obtain rfl := Option.some.inj hf
    refine .word ?_ ?_
    · rwa [String.toList_ofList]
    · rwa [String.toList_ofList]

/-- A minus sign that no bare character follows is the whole key of a pair, or all of a word. -/
theorem after_minus (h : b.Spelled ('-' :: cs)) (stops : Stops cs) :
    (∃ comparand, cs = ':' :: comparand ∧ Comparand b comparand) ∨ b = .bare ∧ cs = [] := by
  generalize htext : '-' :: cs = text at h
  cases h with
  | @pair _ key comparand run value =>
    obtain ⟨c, key, rfl, -⟩ := head?_run run
    rw [List.cons_append, List.cons.injEq] at htext
    obtain ⟨rfl, rfl⟩ := htext
    cases key with
    | nil => exact .inl ⟨comparand, rfl, value⟩
    | cons d key =>
      have hbare := run.2 d (List.mem_cons_of_mem _ List.mem_cons_self)
      rw [stops d rfl] at hbare
      cases hbare
  | quoted plain =>
    rw [List.cons.injEq] at htext
    exact absurd htext.1 (by decide)
  | bare run =>
    rw [← htext] at run
    cases cs with
    | nil => exact .inr ⟨rfl, rfl⟩
    | cons d cs =>
      have hbare := run.2 d (List.mem_cons_of_mem _ List.mem_cons_self)
      rw [stops d rfl] at hbare
      cases hbare

/-- What a minus sign leaves over that stands alone before a colon or at the end. -/
theorem classifyBody_minus_sound (h : b.Spelled ('-' :: cs)) (stops : Stops cs) :
    ∃ filter, classifyBody cs now = .ok filter ∧ ∀ f ∈ filter, f.Sound true := by
  rcases after_minus h stops with ⟨comparand, rfl, value⟩ | ⟨-, rfl⟩
  · rw [classifyBody_colon]
    refine ⟨_, rfl, fun f hf => ?_⟩
    obtain rfl := Option.some.inj hf
    exact .colon String.toList_ofList value rfl
  · exact ⟨none, rfl, fun f hf => nomatch hf⟩

theorem classify_cons_minus (cs : List Char) :
    classify ('-' :: cs) now = (classifyBody cs now).map (·.map (⟨true, ·⟩)) := by
  rw [classify, List.head?_cons, decide_eq_true rfl, if_pos rfl, List.drop_succ_cons,
    List.drop_zero]
  cases classifyBody cs now <;> rfl

theorem classify_of_head (hhead : cs.head? ≠ some '-') :
    classify cs now = (classifyBody cs now).map (·.map (⟨false, ·⟩)) := by
  rw [classify, decide_eq_false hhead, if_neg hhead]
  cases classifyBody cs now <;> rfl

theorem classify_minus {filter : Option Filter} (h : classifyBody cs now = .ok filter) :
    classify ('-' :: cs) now = .ok (filter.map (⟨true, ·⟩)) := by
  rw [classify_cons_minus, h]
  rfl

theorem classify_plain {filter : Option Filter} (hhead : cs.head? ≠ some '-')
    (h : classifyBody cs now = .ok filter) :
    classify cs now = .ok (filter.map (⟨false, ·⟩)) := by
  rw [classify_of_head hhead, h]
  rfl

/-- A spelled lexeme yields a sound token or none. -/
theorem classify_sound {s : Shape} (hnow : now.HasYesterday) (h : s.Spelled cs) :
    ∃ token, classify cs now = .ok token ∧ ∀ t ∈ token, t.Sound := by
  have hsound {excluded : Bool} {filter : Option Filter} (h : ∀ f ∈ filter, f.Sound excluded) :
      ∀ t ∈ filter.map (Token.mk excluded), t.Sound := by
    intro t ht
    obtain ⟨f, hf, rfl⟩ := Option.map_eq_some_iff.mp ht
    exact h f hf
  cases h with
  | negated body =>
    obtain ⟨filter, hfilter, sound⟩ := classifyBody_sound hnow body (.inl rfl)
    exact ⟨_, classify_minus hfilter, hsound sound⟩
  | plain body minus =>
    by_cases hhead : cs.head? = some '-'
    · obtain ⟨cs, rfl⟩ := List.head?_eq_some_iff.mp hhead
      obtain ⟨filter, hfilter, sound⟩ := classifyBody_minus_sound body (minus cs rfl)
      exact ⟨_, classify_minus hfilter, hsound sound⟩
    · obtain ⟨filter, hfilter, sound⟩ :=
        classifyBody_sound hnow body (.inr hhead)
      exact ⟨_, classify_plain hhead hfilter, hsound sound⟩

theorem classifyAll_outcomes (hnow : now.HasYesterday) {texts : List (List Char)}
    (h : ∀ text ∈ texts, ∃ s : Shape, s.Spelled text) :
    ∃ outcomes : List (Option Token),
      List.Forall₂ (fun text outcome => classify text now = .ok outcome) texts outcomes ∧
      classifyAll now texts = .ok outcomes.reduceOption ∧
      ∀ t ∈ outcomes.reduceOption, t.Sound := by
  induction texts with
  | nil => exact ⟨[], .nil, rfl, fun t ht => nomatch ht⟩
  | cons text texts ih =>
    obtain ⟨⟨s, hs⟩, htexts⟩ := List.forall_mem_cons.mp h
    obtain ⟨token, htoken, sound⟩ := classify_sound hnow hs
    obtain ⟨outcomes, houtcomes, hall, sounds⟩ := ih htexts
    have hreduce : (token :: outcomes).reduceOption = token.toList ++ outcomes.reduceOption := by
      cases token <;> rfl
    refine ⟨token :: outcomes, .cons htoken houtcomes, ?_, fun t ht => ?_⟩
    · rw [classifyAll, htoken, hall, hreduce]
      rfl
    · rw [hreduce] at ht
      rcases List.mem_append.mp ht with ht | ht
      · exact sound t (Option.mem_toList.mp ht)
      · exact sounds t ht

/-- **The reader does not fail** if the day before is in the calendar.  Each lexeme yields at most
one token, in order, and all tokens are sound. -/
theorem parse_outcomes (hnow : now.HasYesterday) (query : List Char) :
    ∃ outcomes : List (Option Token),
      List.Forall₂ (fun text outcome => classify text now = .ok outcome) (tokenize query) outcomes ∧
      parse query now = .ok outcomes.reduceOption ∧ ∀ t ∈ outcomes.reduceOption, t.Sound := by
  refine classifyAll_outcomes hnow fun text htext => ?_
  obtain ⟨l, hl, rfl⟩ := List.mem_map.mp htext
  exact ⟨l.shape, scan_spelled _ l hl⟩

/-- The reader does not fail at a current time, and all its tokens are sound. -/
theorem parse_sound (hnow : now.Current) (query : List Char) :
    ∃ tokens, parse query now = .ok tokens ∧ ∀ t ∈ tokens, t.Sound := by
  obtain ⟨outcomes, -, hparse, sound⟩ := parse_outcomes hnow.hasYesterday query
  exact ⟨outcomes.reduceOption, hparse, sound⟩

end Query

end LogAlert
