import LogAlert.Proofs.CanonicalForm
import LogAlert.Proofs.Conjunction
import LogAlert.Proofs.Grammar
import LogAlert.Proofs.InstantSurvival

/-!
# Values that are read back

A text is written between quotation marks, and a quotation mark inside it with a backslash in front.
The scanner does not know of the backslash: a quoted lexeme ends at the next quotation mark.  So a
text is read back exactly if it holds no quotation mark.  A value of metadata that looks bare is
written as it is.  This includes a run with one line feed behind it, and the line feed is lost.

## Main definitions

* `Token.Survives` : the tokens that are read back.

## Main results

* `Lexeme.Shape.Spelled.taken_of_closed` : what follows a quoted lexeme does not matter.
* `Query.phrase_survives_iff`, `Query.metadata_survives_iff` : one token.
* `Query.quoted_values_survive_iff` : quoted texts and values of metadata.
-/

namespace LogAlert

/-- The token, written by itself as a query, is read as the one token that it was. -/
def Token.Survives (t : Token) (now : Moment) : Prop :=
  ∃ text, Query.toQuery [t] = .ok text ∧ Query.parse text now = .ok [t]

/-! ### Quoted lexemes -/

namespace Lexeme

variable {s t : Shape} {b : Body} {cs word rest : List Char} {l : Lexeme}

/-- The bodies that end with a quotation mark. -/
def Body.closed : List Body :=
  [.quotedPair, .quoted]

theorem Body.Spelled.quotes (h : b.Spelled cs) (hb : b ∈ Body.closed) :
    cs.count '"' = 2 ∧ cs.getLast? = some '"' := by
  have hquoted {inner : List Char} (plain : '"' ∉ inner) (front : List Char)
      (hfront : '"' ∉ front) : (front ++ '"' :: (inner ++ ['"'])).count '"' = 2 ∧
        (front ++ '"' :: (inner ++ ['"'])).getLast? = some '"' := by
    constructor
    · rw [List.count_append, List.count_cons_self, List.count_append, List.count_singleton_self,
        List.count_eq_zero.mpr hfront, List.count_eq_zero.mpr plain]
    · rw [← List.cons_append, ← List.append_assoc, List.getLast?_concat]
  cases h with
  | @pair _ key _ run value =>
    cases value with
    | quoted plain =>
      rw [List.append_cons]
      refine hquoted plain _ fun h => ?_
      rcases List.mem_append.mp h with h | h
      · exact ne_of_isBare (run.2 _ h) isBare_quote rfl
      · exact absurd (List.mem_singleton.mp h) (by decide)
    | compared | bare => exact absurd hb (by decide)
  | quoted plain => exact hquoted plain [] List.not_mem_nil
  | bare => exact absurd hb (by decide)

/-- A word that ends with a quotation mark has one more, and no other. -/
theorem Shape.Word.quotes (h : s.Word cs) (hs : s.body ∈ Body.closed) :
    cs.count '"' = 2 ∧ cs.getLast? = some '"' := by
  cases h with
  | plain body => exact body.quotes hs
  | @negated b cs body =>
    obtain ⟨hcount, hlast⟩ := body.quotes hs
    rw [List.count_cons_of_ne (by decide), List.getLast?_cons, hlast]
    exact ⟨hcount, rfl⟩

theorem closed_of_prior (hs : s.body ∈ Body.closed) : ∀ t ∈ s.prior, t.body ∈ Body.closed := by
  obtain ⟨negated, b⟩ := s
  cases negated <;> cases b <;> revert hs <;> decide

/-- A word that ends with a quotation mark does not reach beyond another one at its place. -/
theorem Shape.Word.prefix_of_closed (h : s.Word cs) (hs : s.body ∈ Body.closed)
    (hword : t.Word word) (ht : t.body ∈ Body.closed) (hfront : word <+: cs ++ rest) :
    word <+: cs := by
  rcases List.prefix_or_prefix_of_prefix hfront (List.prefix_append cs rest) with h' | ⟨tail, rfl⟩
  · exact h'
  · obtain ⟨hcount, -⟩ := h.quotes hs
    obtain ⟨hcount', hlast⟩ := hword.quotes ht
    cases tail with
    | nil => simp
    | cons c tail =>
      -- a further quotation mark would be the third one
      rw [List.getLast?_append_of_ne_nil _ (List.cons_ne_nil _ _)] at hlast
      have hpos := List.count_pos_iff.mpr (List.mem_of_getLast? hlast)
      rw [List.count_append] at hcount'
      omega

/-- **A lexeme that ends with a quotation mark** is taken whatever follows it. -/
theorem Shape.Spelled.taken_of_closed (h : s.Spelled cs) (hs : s.body ∈ Body.closed)
    (rest : List Char) : Taken ⟨s, cs⟩ rest where
  word := h.word
  longest _ hword hfront := h.word.prefix_of_closed hs hword hs hfront
  first t ht := by
    rintro ⟨word, hword, hfront⟩
    have alone := h.first?_append (.inl rfl)
    rw [List.append_nil, first?_eq_some_iff] at alone
    have hnone : ¬t.Begins cs := Shape.not_begins_iff.mpr (alone.2 t ht)
    exact hnone ⟨word, hword,
      h.word.prefix_of_closed hs hword (closed_of_prior hs t ht) hfront⟩

/-- A lexeme that stands at the front of a text is found. -/
theorem Taken.scan_append (h : l.Taken rest) : scan (l.text ++ rest) = l :: scan rest :=
  scan_of_first? h.ne_nil (taken_iff.mp h)

end Lexeme

namespace Query

open Lexeme

variable {excluded : Bool} {now : Moment} {t u : Token} {l : Lexeme} {lexemes : List Lexeme}
  {cs : List Char}

/-! ### The first token -/

theorem parse_of_scan (h : scan cs = lexemes) :
    parse cs now = classifyAll now (lexemes.map (·.text)) := by
  rw [parse, tokenize, scan_strip, h]

/-- The first lexeme of a query yields its first token. -/
theorem eq_of_parse_single (hscan : scan cs = l :: lexemes)
    (hclassify : classify l.text now = .ok (some u)) (h : parse cs now = .ok [t]) : t = u := by
  rw [parse_of_scan hscan, List.map_cons, classifyAll, hclassify] at h
  cases hrest : classifyAll now (lexemes.map (·.text)) with
  | error e =>
    rw [hrest] at h
    cases h
  | ok tokens =>
    rw [hrest] at h
    exact (List.cons.inj (Except.ok.inj h)).1.symm

/-- Inside a quoted text, the first quotation mark of the text itself closes it. -/
theorem quote_of_mem (h : '"' ∈ cs) : ∃ inner rest, inner ≠ [] ∧ '"' ∉ inner ∧
    quote cs = '"' :: (inner ++ ['"']) ++ rest := by
  obtain ⟨front, back, rfl, hfront⟩ := List.eq_append_cons_of_mem h
  refine ⟨front ++ ['\\'], Text.replace '"' ['\\', '"'] back ++ ['"'], by simp,
    by simpa using hfront, ?_⟩
  have hreplace := replace_absent ['\\', '"'] hfront
  rw [Text.replace] at hreplace
  rw [quote, Text.replace, List.flatMap_append, hreplace, List.flatMap_cons]
  simp [Text.replace]

theorem ne_of_mem {inner : List Char} {text : String} (h : '"' ∈ text.toList)
    (plain : '"' ∉ inner) : text ≠ String.ofList inner := by
  rintro rfl
  rw [String.toList_ofList] at h
  exact plain h

/-! ### Tokens -/

section Token

variable {f g : Filter} {b : Body} {rest : List Char}

theorem signed_append (excluded : Bool) (cs rest : List Char) :
    (if excluded then '-' :: (cs ++ rest) else cs ++ rest) =
      (if excluded then '-' :: cs else cs) ++ rest := by
  cases excluded <;> rfl

theorem survives_iff_of_written (written : renderFilter f = .ok cs) :
    Token.Survives ⟨excluded, f⟩ now ↔
      parse (if excluded then '-' :: cs else cs) now = .ok [⟨excluded, f⟩] := by
  have htext := toQuery_single
    (render_of_filter written : render ⟨excluded, f⟩ = .ok (if excluded then '-' :: cs else cs))
  constructor
  · rintro ⟨text, htext', hparse⟩
    obtain rfl := Except.ok.inj (htext.symm.trans htext')
    exact hparse
  · exact fun hparse => ⟨_, htext, hparse⟩

/-- A token whose text is one lexeme survives exactly if it is read from it. -/
theorem survives_iff_of_body {filter : Option Filter} (written : renderFilter f = .ok cs)
    (minus : excluded ∨ cs.head? ≠ some '-') (spelled : b.Spelled cs)
    (read : classifyBody cs now = .ok filter) :
    Token.Survives ⟨excluded, f⟩ now ↔ filter = some f := by
  obtain ⟨hspelled, hclassify⟩ := lexeme_of_body minus spelled
  rw [survives_iff_of_written written, parse_single hspelled (hclassify now _ read)]
  cases filter with
  | none => simp
  | some g => simp

/-- A token whose text begins with a quoted lexeme survives only if it is read from this. -/
theorem eq_of_survives (written : renderFilter f = .ok (cs ++ rest))
    (minus : excluded ∨ cs.head? ≠ some '-') (spelled : b.Spelled cs) (hb : b ∈ Body.closed)
    (read : classifyBody cs now = .ok (some g)) (h : Token.Survives ⟨excluded, f⟩ now) : f = g := by
  obtain ⟨hspelled, hclassify⟩ := lexeme_of_body minus spelled
  have hscan := (hspelled.taken_of_closed hb rest).scan_append
  rw [survives_iff_of_written written, signed_append] at h
  exact congrArg Token.filter (eq_of_parse_single hscan (hclassify now _ read) h)

end Token

/-- **A quoted text survives** exactly if it is not empty and holds no quotation mark. -/
theorem phrase_survives_iff (text : String) :
    Token.Survives ⟨excluded, .phrase text⟩ now ↔ text ≠ "" ∧ '"' ∉ text.toList := by
  have hminus (cs : List Char) : excluded = true ∨ ('"' :: cs).head? ≠ some '-' := .inr (by simp)
  by_cases hmem : '"' ∈ text.toList
  · refine iff_of_false (fun survives => ?_) fun h => h.2 hmem
    obtain ⟨inner, rest, nonempty, plain, hquote⟩ := quote_of_mem hmem
    have hread := @classifyBody_quoted inner now plain
    rw [List.isEmpty_eq_false_iff.mpr nonempty, if_neg Bool.false_ne_true] at hread
    have hwritten : renderFilter (.phrase text) = .ok ('"' :: (inner ++ ['"']) ++ rest) :=
      congrArg Except.ok hquote
    have heq := eq_of_survives hwritten (hminus _) (.quoted plain) (by decide) hread survives
    exact ne_of_mem hmem plain (Filter.phrase.inj heq)
  · have hwritten : renderFilter (.phrase text) = .ok ('"' :: (text.toList ++ ['"'])) :=
      congrArg Except.ok (quote_plain hmem)
    rw [survives_iff_of_body hwritten (hminus _) (.quoted hmem) (classifyBody_quoted hmem),
      String.ofList_toList]
    simp [hmem]

section Metadata

variable {key : String}

theorem renderFilter_metadata (key value : String) :
    renderFilter (.metadata key .eq value) =
      .ok (key.toList ++ ':' :: valueText value.toList) := by
  rw [renderFilter, List.append_assoc]
  rfl

theorem renderFilter_metadata_append (key : String) {value : String} {front rest : List Char}
    (h : valueText value.toList = front ++ rest) :
    renderFilter (.metadata key .eq value) = .ok ((key.toList ++ ':' :: front) ++ rest) := by
  rw [renderFilter_metadata, h, List.append_assoc, List.cons_append]

/-- A run that one line feed follows looks bare. -/
theorem valueText_runAndNewline (h : RunAndNewline cs) : valueText cs = cs := by
  obtain ⟨run, hrun, rfl⟩ := h
  refine if_pos ?_
  rw [Body.fits, Body.length?, runLength?_append hrun (stops_cons (by decide) [])]
  dsimp only
  rw [List.drop_left]
  rfl

theorem valueText_of_mem (h : '"' ∈ cs) : valueText cs = quote cs := by
  refine if_neg fun hfits => ?_
  rcases bare_fits hfits with hrun | ⟨run, hrun, rfl⟩
  · exact not_mem_run hrun isBare_quote h
  · rw [List.mem_append, List.mem_singleton] at h
    exact h.elim (not_mem_run hrun isBare_quote) (by decide)

/-- The line feed behind a run is lost. -/
theorem not_survives_of_runAndNewline {value : String} (run : IsRun key.toList)
    (minus : excluded ∨ key.toList.head? ≠ some '-')
    (field : fieldName key.toList ∉ ["level", "timestamp", "source"])
    (h : RunAndNewline value.toList) : ¬Token.Survives ⟨excluded, .metadata key .eq value⟩ now := by
  have hvalueText := valueText_runAndNewline h
  obtain ⟨bare, hbare, hvalue⟩ := h
  have hwritten := renderFilter_metadata_append key (hvalueText.trans hvalue)
  have hread := classifyBody_metadata now run field (.bare hbare) (extract_run hbare)
  rw [unquote_run hbare] at hread
  have hminus : excluded = true ∨ (key.toList ++ ':' :: bare).head? ≠ some '-' := by
    rwa [head?_key run]
  obtain ⟨hspelled, hclassify⟩ := lexeme_of_body hminus (.pair run (.bare hbare))
  have blank : ∀ c ∈ ['\n'], Text.isBlank c := List.forall_mem_singleton.mpr (by decide)
  rw [survives_iff_of_written hwritten, signed_append, parse, tokenize,
    Text.strip_append_blanks blank, ← tokenize, ← parse,
    parse_single hspelled (hclassify now _ hread)]
  intro hparse
  have heq := (List.cons.inj (Except.ok.inj hparse)).1
  obtain rfl : String.ofList bare = value := (Filter.metadata.inj (congrArg Token.filter heq)).2.2
  rw [String.toList_ofList, List.self_eq_append_right] at hvalue
  cases hvalue

/-- **A value of metadata survives** exactly if it holds no quotation mark and is not a run with
one line feed behind it. -/
theorem metadata_survives_iff {value : String} (run : IsRun key.toList)
    (minus : excluded ∨ key.toList.head? ≠ some '-')
    (field : fieldName key.toList ∉ ["level", "timestamp", "source"]) :
    Token.Survives ⟨excluded, .metadata key .eq value⟩ now ↔
      '"' ∉ value.toList ∧ ¬RunAndNewline value.toList := by
  by_cases newline : RunAndNewline value.toList
  · exact iff_of_false (not_survives_of_runAndNewline run minus field newline)
      fun h => h.2 newline
  have hminus (cs : List Char) : excluded = true ∨ (key.toList ++ ':' :: cs).head? ≠ some '-' := by
    rwa [head?_key run]
  by_cases hmem : '"' ∈ value.toList
  · refine iff_of_false (fun survives => ?_) fun h => h.1 hmem
    obtain ⟨inner, rest, -, plain, hquote⟩ := quote_of_mem hmem
    have hwritten := renderFilter_metadata_append key ((valueText_of_mem hmem).trans hquote)
    have hread := classifyBody_metadata now run field (.quoted plain) rfl
    rw [unquote_quoted plain] at hread
    have heq := eq_of_survives hwritten (hminus _) (.pair run (.quoted plain)) (by decide) hread
      survives
    exact ne_of_mem hmem plain (Filter.metadata.inj heq).2.2
  · obtain ⟨b, hcomparand, hextract, hread⟩ := valueText_spec hmem newline
    have hbody := classifyBody_metadata now run field hcomparand hextract
    rw [survives_iff_of_body (renderFilter_metadata key value) (hminus _) (.pair run hcomparand)
      hbody, hread, String.ofList_toList]
    simp [hmem, newline]

end Metadata

/-- **Quoted texts and values of metadata.**  A quoted text, written by itself as a query, is read
back at any time exactly if it is not empty and holds no quotation mark.  Take a filter for equality
on metadata whose key is a run, is not that of a pseudo-field, and begins with no minus sign unless
another one excludes the filter.  It is read back exactly if its value holds no quotation mark and
is not a run with one line feed behind it. -/
theorem quoted_values_survive_iff (excluded : Bool) (now : Moment) :
    (∀ text : String,
      Token.Survives ⟨excluded, .phrase text⟩ now ↔ text ≠ "" ∧ '"' ∉ text.toList) ∧
      ∀ key value : String, IsRun key.toList → (excluded ∨ key.toList.head? ≠ some '-') →
        fieldName key.toList ∉ ["level", "timestamp", "source"] →
        (Token.Survives ⟨excluded, .metadata key .eq value⟩ now ↔
          '"' ∉ value.toList ∧ ¬RunAndNewline value.toList) :=
  ⟨phrase_survives_iff, fun _ _ run minus field => metadata_survives_iff run minus field⟩

namespace Sample

theorem msg_plain : IsRun "msg".toList ∧ "msg".toList.head? ≠ some '-' ∧
    fieldName "msg".toList ∉ ["level", "timestamp", "source"] :=
  ⟨isRun_of_all (by decide) (by decide), by decide, by decide⟩

/-- A value with blanks, a backslash and line feeds. -/
def lines : String := "disk\\full \n on a:\n"

end Sample

theorem quoted_values_survive_of_lines :
    Token.Survives ⟨false, .phrase Sample.lines⟩ Sample.reading ∧ IsRun "msg".toList ∧
      "msg".toList.head? ≠ some '-' ∧ fieldName "msg".toList ∉ ["level", "timestamp", "source"] ∧
      Token.Survives ⟨false, .metadata "msg" .eq Sample.lines⟩ Sample.reading := by
  obtain ⟨phrases, values⟩ := quoted_values_survive_iff false Sample.reading
  obtain ⟨run, minus, field⟩ := Sample.msg_plain
  have plain : '"' ∉ Sample.lines.toList := by decide
  have newline : ¬RunAndNewline Sample.lines.toList := by
    rintro ⟨bare, hbare, hlines⟩
    have hmem : ' ' ∈ bare ++ ['\n'] := hlines ▸ (by decide)
    rw [List.mem_append, List.mem_singleton] at hmem
    exact hmem.elim (not_mem_run hbare (by decide)) (by decide)
  exact ⟨(phrases _).mpr ⟨by decide, plain⟩, run, minus, field,
    (values _ _ run (.inr minus) field).mpr ⟨plain, newline⟩⟩

/-- **Quoting is not inverted by reading**: a quotation mark inside a text ends the lexeme, and a
line feed behind a bare value is trimmed. -/
theorem quotation_mark_does_not_survive :
    ¬Token.Survives ⟨false, .phrase "a\"b"⟩ Sample.reading ∧
      ¬Token.Survives ⟨false, .metadata "msg" .eq "a\"b"⟩ Sample.reading ∧
      ¬Token.Survives ⟨false, .metadata "msg" .eq "abc\n"⟩ Sample.reading := by
  obtain ⟨run, minus, field⟩ := Sample.msg_plain
  rw [phrase_survives_iff, metadata_survives_iff run (.inr minus) field,
    metadata_survives_iff run (.inr minus) field]
  refine ⟨fun h => absurd h.2 (by decide), fun h => absurd h.1 (by decide), fun h => h.2 ?_⟩
  exact ⟨"abc".toList, isRun_of_all (by decide) (by decide), rfl⟩

end Query

end LogAlert
