import LogAlert.Proofs.Classification
import LogAlert.Proofs.ReachableStores
import LogAlert.Proofs.Searches

/-!
# Joined queries

The scanner has no state for quotation marks.  Still they pair up from left to right: a mark is
passed over only if none follows it, and otherwise it is taken together with the next one.  After
a text with an even number of them, all are paired, and a blank ends every lexeme.  So the lexemes
of two such texts with a blank between them are the lexemes of both, and the joined query asks for
what both queries ask for.

## Main definitions

* `Lexeme.Apart` : no lexeme that begins in a text goes on in what follows the text.
* `Lexeme.Local` : the parts of lexemes, which are taken from a text whatever follows it.

## Main results

* `Lexeme.scan_apart`, `Lexeme.tokenize_append` : the lexemes of joined texts.
* `Query.conjunction_of_joined` : the tokens of joined queries, and the records that they find.
-/

namespace LogAlert

namespace Lexeme

/-- A blank follows the text, and its quotation marks are paired or no further one follows. -/
structure Apart (cs tail : List Char) : Prop where
  blank : ∃ b rest, tail = b :: rest ∧ Text.isBlank b
  quotes : cs.count '"' % 2 = 0 ∨ '"' ∉ tail

/-- The part is taken from a text whatever follows it, and what it leaves of the text is still
apart from what follows. -/
structure Local (f : List Char → Option Nat) : Prop where
  same : ∀ {cs tail}, Apart cs tail → f (cs ++ tail) = f cs
  left : ∀ {cs tail n}, Apart cs tail → f cs = some n → n ≤ cs.length ∧ Apart (cs.drop n) tail

/-! ### Parts of lexemes -/

variable {cs tail : List Char}

theorem Apart.drop (h : Apart cs tail) {n : Nat} (plain : '"' ∉ cs.take n) :
    Apart (cs.drop n) tail := by
  refine ⟨h.blank, h.quotes.imp_left fun even => ?_⟩
  have hcount := congrArg (List.count '"') (List.take_append_drop n cs)
  rw [List.count_append, List.count_eq_zero.mpr plain, Nat.zero_add] at hcount
  rwa [hcount]

/-- What follows the text begins neither with a bare character nor with a sign. -/
theorem Apart.head (h : Apart cs tail) {c : Char} (hc : Text.isBlank c = false) :
    tail.head? ≠ some c := by
  obtain ⟨b, rest, rfl, blank⟩ := h.blank
  intro heq
  rw [← Option.some.inj heq, blank] at hc
  cases hc

theorem Apart.stops (h : Apart cs tail) : Stops tail := by
  intro c hc
  refine Bool.eq_false_iff.mpr fun bare => ?_
  exact h.head (Text.isBlank_of_isBare bare) hc

theorem local_runLength : Local runLength? where
  same {cs tail} h := by
    have htake : (cs ++ tail).takeWhile isBare = cs.takeWhile isBare := by
      rw [List.takeWhile_append, takeWhile_of_stops h.stops, List.append_nil]
      split
      · next hlen => exact ((List.takeWhile_sublist isBare).eq_of_length hlen).symm
      · rfl
    rw [runLength?, runLength?, htake]
  left h hn := by
    obtain ⟨run, -, le⟩ := runLength?_spec hn
    refine ⟨le, h.drop fun quote => ?_⟩
    have bare := run.2 _ quote
    rw [isBare_quote] at bare
    cases bare

theorem local_oneLength {c : Char} (hc : Text.isBlank c = false) (plain : c ≠ '"') :
    Local (oneLength? c) where
  same {cs tail} h := by
    cases cs with
    | nil => exact oneLength?_of_head (h.head hc)
    | cons d cs => rfl
  left h hn := by
    obtain ⟨rfl, rest, rfl⟩ := oneLength?_spec hn
    refine ⟨Nat.le_add_left .., h.drop ?_⟩
    rw [List.take_succ_cons, List.take_zero, List.mem_singleton]
    exact plain.symm

theorem local_signLength : Local signLength? where
  same {cs tail} h := by
    obtain ⟨b, rest, rfl, blank⟩ := h.blank
    have hne {c : Char} (hc : Text.isBlank c = false) : b ≠ c :=
      fun heq => h.head hc (congrArg some heq)
    match cs with
    | [] => exact signLength?_of_head ⟨hne (by decide), hne (by decide)⟩
    | [c] =>
      rw [List.singleton_append, signLength?, signLength?, beq_false_of_ne (hne (by decide))]
      rfl
    | c :: d :: cs => rfl
  left h hn := by
    obtain ⟨op, -, htake, le⟩ := signLength?_spec hn
    refine ⟨le, h.drop ?_⟩
    rw [htake]
    cases op <;> decide

/-- A quotation mark that is never closed opens nothing. -/
theorem quotedLength?_of_open (plain : '"' ∉ cs) : quotedLength? ('"' :: cs) = none := by
  have hall : cs.takeWhile (· != '"') = cs :=
    List.takeWhile_eq_self_iff.mpr fun c hc => bne_iff_ne.mpr fun heq => plain (heq ▸ hc)
  rw [quotedLength?, hall]
  exact if_neg (Nat.lt_irrefl _)

/-- A quoted text is closed in the text in which it is opened: if no mark is left there to close
it, the marks of this text are not paired, and none follows. -/
theorem local_quotedLength : Local quotedLength? where
  same {cs tail} h := by
    cases cs with
    | nil =>
      obtain ⟨b, rest, rfl, -⟩ := h.blank
      refine quotedLength?_of_head fun heq => ?_
      exact h.head (c := '"') (by decide) (congrArg some heq)
    | cons c cs =>
      rw [List.cons_append]
      by_cases quote : c = '"'
      · subst quote
        by_cases closed : '"' ∈ cs
        · obtain ⟨inner, rest, rfl, plain⟩ := List.eq_append_cons_of_mem closed
          rw [List.append_assoc, List.cons_append, quotedLength?_append plain,
            quotedLength?_append plain]
        · have unpaired : '"' ∉ tail := by
            refine h.quotes.resolve_left fun even => ?_
            rw [List.count_cons_self, List.count_eq_zero.mpr closed] at even
            cases even
          rw [quotedLength?_of_open closed,
            quotedLength?_of_open (List.not_mem_append closed unpaired)]
      · rw [quotedLength?_of_head quote, quotedLength?_of_head quote]
  left {cs tail n} h hn := by
    obtain ⟨inner, plain, htake, le⟩ := quotedLength?_spec hn
    refine ⟨le, h.blank, h.quotes.imp_left fun even => ?_⟩
    rw [← List.take_append_drop n cs, htake, List.count_append, List.count_cons_self,
      List.count_append, List.count_eq_zero.mpr plain, List.count_singleton_self] at even
    omega

theorem Local.sequence {first second : List Char → Option Nat} (hfirst : Local first)
    (hsecond : Local second) : Local (sequence first second) where
  same {cs tail} h := by
    rw [Lexeme.sequence, Lexeme.sequence, hfirst.same h]
    cases hi : first cs with
    | none => rfl
    | some i =>
      obtain ⟨le, apart⟩ := hfirst.left h hi
      dsimp only [Option.bind_eq_bind, Option.bind_some]
      rw [List.drop_append_of_le_length le, hsecond.same apart]
  left {cs tail n} h hn := by
    obtain ⟨i, j, hi, hj, rfl⟩ := sequence_spec hn
    obtain ⟨le, apart⟩ := hfirst.left h hi
    obtain ⟨le', apart'⟩ := hsecond.left apart hj
    rw [List.length_drop] at le'
    rw [List.drop_drop] at apart'
    exact ⟨by omega, apart'⟩

/-! ### Lexemes -/

theorem Body.local_length? (b : Body) : Local b.length? := by
  have key : Local keyLength? := local_runLength.sequence (local_oneLength (by decide) (by decide))
  cases b with
  | quotedPair => exact key.sequence local_quotedLength
  | quoted => exact local_quotedLength
  | comparedPair => exact key.sequence (local_signLength.sequence local_runLength)
  | barePair => exact key.sequence local_runLength
  | bare => exact local_runLength

theorem Shape.local_length? (s : Shape) : Local s.length? := by
  obtain ⟨negated, b⟩ := s
  cases negated with
  | false =>
    rw [length?_plain]
    exact b.local_length?
  | true =>
    have minus : Local (oneLength? '-') := local_oneLength (by decide) (by decide)
    exact minus.sequence b.local_length?

theorem first?_apart (h : Apart cs tail) : first? (cs ++ tail) = first? cs := by
  unfold first?
  congr 1
  funext s
  rw [s.local_length?.same h]

/-- A character is passed over only if it is no quotation mark that is closed. -/
theorem Apart.of_first?_none {c : Char} (h : Apart (c :: cs) tail)
    (none : first? (c :: cs) = none) : Apart cs tail := by
  refine ⟨h.blank, h.quotes.imp_left fun even => ?_⟩
  by_cases quote : c = '"'
  · subst quote
    have closed : '"' ∈ cs := by
      refine List.count_pos_iff.mp (Nat.pos_of_ne_zero fun zero => ?_)
      rw [List.count_cons_self, zero] at even
      cases even
    obtain ⟨inner, rest, rfl, plain⟩ := List.eq_append_cons_of_mem closed
    rw [first?, List.findSome?_eq_none_iff] at none
    have hquoted := none ⟨false, .quoted⟩ (mem_shapes _)
    rw [length?_plain, Body.length?, quotedLength?_append plain] at hquoted
    cases hquoted
  · rwa [List.count_cons_of_ne quote] at even

/-- **A blank ends every lexeme** if the quotation marks before it are paired or none follows. -/
theorem scan_apart (h : Apart cs tail) : scan (cs ++ tail) = scan cs ++ scan tail := by
  induction cs using scan.induct with
  | case1 => rw [scan, List.nil_append, List.nil_append]
  | case2 c cs s n hfirst ih =>
    obtain ⟨hlength, -⟩ := first?_eq_some_iff.mp hfirst
    obtain ⟨le, apart⟩ := s.local_length?.left h hlength
    obtain ⟨n, rfl⟩ := exists_succ_of_first? hfirst
    have hle : n ≤ cs.length := Nat.le_of_succ_le_succ le
    rw [List.cons_append, scan, ← List.cons_append, first?_apart h, hfirst, scan, hfirst]
    dsimp only
    rw [List.take_append_of_le_length le, Nat.add_sub_cancel,
      List.drop_append_of_le_length hle, List.cons_append]
    exact congrArg _ (ih apart)
  | case3 c cs hfirst ih =>
    rw [List.cons_append, scan, ← List.cons_append, first?_apart h, hfirst, scan, hfirst]
    exact ih (h.of_first?_none hfirst)

/-! ### Blanks around a text -/

theorem scan_dropWhile (cs : List Char) : scan (cs.dropWhile Text.isBlank) = scan cs := by
  induction cs with
  | nil => rfl
  | cons c cs ih =>
    cases hc : Text.isBlank c with
    | true => rw [List.dropWhile_cons_of_pos hc, ih, scan_blank hc]
    | false => rw [List.dropWhile_cons_of_neg (by rw [hc]; exact Bool.false_ne_true)]

theorem scan_blanks {cs : List Char} (h : ∀ c ∈ cs, Text.isBlank c) : scan cs = [] := by
  rw [← scan_dropWhile, List.dropWhile_eq_nil_iff.mpr h, scan]

theorem scan_append_blanks {blanks : List Char} (h : ∀ c ∈ blanks, Text.isBlank c)
    (cs : List Char) : scan (cs ++ blanks) = scan cs := by
  cases blanks with
  | nil => rw [List.append_nil]
  | cons b blanks =>
    have apart : Apart cs (b :: blanks) := by
      refine ⟨⟨b, blanks, rfl, h b List.mem_cons_self⟩, .inr fun quote => ?_⟩
      cases h '"' quote
    rw [scan_apart apart, scan_blanks h, List.append_nil]

/-- Trimming a text takes no lexeme away. -/
theorem scan_strip (cs : List Char) : scan (Text.strip cs) = scan cs := by
  rw [Text.strip, Text.stripBy, ← scan_dropWhile cs]
  generalize cs.dropWhile Text.isBlank = text
  have hsplit := congrArg List.reverse
    (List.takeWhile_append_dropWhile (p := Text.isBlank) (l := text.reverse))
  rw [List.reverse_append, List.reverse_reverse] at hsplit
  conv_rhs => rw [← hsplit]
  refine (scan_append_blanks (fun c hc => ?_) _).symm
  exact List.mem_takeWhile_imp (List.mem_reverse.mp hc)

/-- **The lexemes of joined queries** are those of both, if the quotation marks of the first are
paired. -/
theorem tokenize_append {first : List Char} (paired : first.count '"' % 2 = 0)
    (second : List Char) :
    tokenize (first ++ ' ' :: second) = tokenize first ++ tokenize second := by
  have apart : Apart first (' ' :: second) := ⟨⟨' ', second, rfl, by decide⟩, .inl paired⟩
  rw [tokenize, tokenize, tokenize, scan_strip, scan_strip, scan_strip, scan_apart apart,
    scan_space, List.map_append]

end Lexeme

/-! ### Queries -/

namespace Query

theorem classifyAll_append {now : Moment} {texts others : List (List Char)} {ts us : List Token}
    (hts : classifyAll now texts = .ok ts) (hus : classifyAll now others = .ok us) :
    classifyAll now (texts ++ others) = .ok (ts ++ us) := by
  induction texts generalizing ts with
  | nil =>
    obtain rfl := Except.ok.inj hts
    exact hus
  | cons text texts ih =>
    rw [classifyAll] at hts
    rw [List.cons_append, classifyAll]
    cases htext : classify text now with
    | error e =>
      rw [htext] at hts
      cases hts
    | ok token =>
      rw [htext] at hts
      cases htexts : classifyAll now texts with
      | error e =>
        rw [htexts] at hts
        cases hts
      | ok rest =>
        rw [htexts] at hts
        obtain rfl := Except.ok.inj hts
        rw [ih htexts, List.append_assoc]
        rfl

/-- **Joining queries is conjunction.**  Let the quotation marks of the first query be paired.
Then the query that has both, with a space between them, is read at a current time as the tokens of
the first and then those of the second.  On a log store on which all of them have answers, it finds
exactly the records that both queries find, in ascending order of their ids. -/
theorem conjunction_of_joined {first : List Char} (paired : first.count '"' % 2 = 0)
    (second : List Char) {now : Moment} (hnow : now.Current) :
    ∃ ts us, parse first now = .ok ts ∧ parse second now = .ok us ∧
      parse (first ++ ' ' :: second) now = .ok (ts ++ us) ∧
      ∀ s : LogStore, s.Reachable → s.Answerable ts → s.Answerable us →
        ∃ found found' both, s.search ts none = .ok found ∧ s.search us none = .ok found' ∧
          s.search (ts ++ us) none = .ok both ∧
          (∀ r, r ∈ both ↔ r ∈ found ∧ r ∈ found') ∧ both.Pairwise fun r r' => r.id < r'.id := by
  obtain ⟨ts, hts, -⟩ := parse_sound hnow first
  obtain ⟨us, hus, -⟩ := parse_sound hnow second
  refine ⟨ts, us, hts, hus, ?_, fun s reachable first second => ?_⟩
  · rw [parse, Lexeme.tokenize_append paired]
    exact classifyAll_append hts hus
  · refine ⟨_, _, _, first.search_eq, second.search_eq, (first.append second).search_eq,
      fun r => ?_, reachable.sound.ascending.filter _⟩
    simp only [List.mem_filter, Record.answers_append, Bool.and_eq_true]
    tauto

namespace Sample

/-- Three entries: two of errors, and two about a disk. -/
def entries : LogStore :=
  let s := (LogStore.empty.append "api" "disk full" "error" Sample.reading []).1
  let s := (s.append "api" "upstream timeout" "error" Sample.reading []).1
  (s.append "web" "disk full again" "info" Sample.reading []).1

theorem entries_reachable : entries.Reachable :=
  ((LogStore.Reachable.empty.append ..).append ..).append ..

/-- A query about disks, with a quoted blank. -/
def disks : List Char := "\"disk full\"".toList

/-- A query about errors, with a quotation mark that is not closed. -/
def errors : List Char := "level:error \"dis".toList

end Sample

theorem conjunction_of_joined_samples :
    Sample.disks.count '"' % 2 = 0 ∧ Sample.reading.Current ∧ Sample.entries.Reachable ∧
      ∃ ts us found found' both, parse Sample.disks Sample.reading = .ok ts ∧
        parse Sample.errors Sample.reading = .ok us ∧
        parse (Sample.disks ++ ' ' :: Sample.errors) Sample.reading = .ok (ts ++ us) ∧
        Sample.entries.Answerable ts ∧ Sample.entries.Answerable us ∧
        Sample.entries.search ts none = .ok found ∧ Sample.entries.search us none = .ok found' ∧
        Sample.entries.search (ts ++ us) none = .ok both ∧
        (∀ r, r ∈ both ↔ r ∈ found ∧ r ∈ found') ∧
        (both.Pairwise fun r r' => r.id < r'.id) ∧ both.map (·.id) = [1] := by
  have paired : Sample.disks.count '"' % 2 = 0 := by decide
  obtain ⟨ts, us, hts, hus, hjoined, searches⟩ :=
    conjunction_of_joined paired Sample.errors Sample.reading_current
  have first : Sample.entries.Answerable ts := .of_parse hts (by decide +kernel)
  have second : Sample.entries.Answerable us := .of_parse hus (by decide +kernel)
  obtain ⟨found, found', both, hfound, hfound', hboth, mem, ascending⟩ :=
    searches Sample.entries Sample.entries_reachable first second
  have ids : ((parse (Sample.disks ++ ' ' :: Sample.errors) Sample.reading).toOption.bind
      fun tokens => (Sample.entries.search tokens none).toOption.map (·.map (·.id))) =
      some [1] := by
    decide +kernel
  rw [hjoined, Except.toOption, Option.bind_some, hboth] at ids
  exact ⟨paired, Sample.reading_current, Sample.entries_reachable, ts, us, found, found', both,
    hts, hus, hjoined, first, second, hfound, hfound', hboth, mem, ascending,
    Option.some.inj ids⟩

end Query

end LogAlert
