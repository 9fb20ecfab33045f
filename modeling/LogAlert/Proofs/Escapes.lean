import LogAlert.Proofs.KeyOrder
import Mathlib.Data.List.Infix

/-!
# Texts inside documents

The document for a value has each text that is inside the value in its written form: quotation
marks, backslashes and all that is not printable ASCII are escaped.  Some texts are in one piece in
their written form.  A text of printable ASCII that is not has a mark, which is some backslashes or
a quotation mark behind another character; such a text cannot occur in its written form, since the
escapes of a mark make its backslashes more.

## Main definitions

* `Json.HasText`, `Json.Nests` : a text inside a value.
* `Json.WrittenAsIs` : the texts that are in one piece in their written form.
* `Json.HasMark` : a mark in a text.

## Main results

* `Json.HasText.infix_asText` : a document has the written form of each text inside the value.
* `Json.WrittenAsIs.occurs_written` : a text in one piece occurs in its written form.
* `Json.HasMark.of_written` : a mark in a document comes from a mark with fewer backslashes.
* `Json.HasMark.missed` : a text with a mark does not occur in its written form.
-/

namespace LogAlert.Json

/-! ### Texts in documents -/

/-- The text is inside the value, at any depth: as an item, as the value of a field or as a key. -/
inductive HasText (s : String) : Json → Prop where
  | self : HasText s (.str s)
  | item {items : List Json} {v : Json} (mem : v ∈ items) (h : HasText s v) : HasText s (.arr items)
  | value {fields : Fields} {f : String × Json} (mem : f ∈ fields) (h : HasText s f.2) :
      HasText s (.obj fields)
  | key {fields : Fields} {v : Json} (mem : (s, v) ∈ fields) : HasText s (.obj fields)

/-- The text is inside the value, which is not the text itself. -/
def Nests (v : Json) (s : String) : Prop :=
  v.HasText s ∧ v ≠ .str s

variable {s : String} {v : Json}

theorem infix_writeItems {items : List Json} (mem : v ∈ items) :
    v.writeChars <:+: writeItems items := by
  induction items with
  | nil => cases mem
  | cons w items ih =>
    rw [writeItems]
    rcases List.mem_cons.mp mem with rfl | mem
    · exact (List.prefix_append _ _).isInfix
    · refine ((ih mem).trans ?_).trans (List.suffix_append _ _).isInfix
      rw [if_neg (by simp [List.ne_nil_of_mem mem])]
      exact (List.suffix_append [',', ' '] _).isInfix

theorem infix_writeFields {fields : Fields} {f : String × Json} (mem : f ∈ fields) :
    writeText f.1 <:+: writeFields fields ∧ f.2.writeChars <:+: writeFields fields := by
  induction fields with
  | nil => cases mem
  | cons g fields ih =>
    rw [writeFields]
    rcases List.mem_cons.mp mem with rfl | mem
    · refine ⟨?_, ?_⟩
      · rw [List.append_assoc]
        exact (List.prefix_append _ _).isInfix
      · exact ⟨writeText f.1 ++ [':', ' '], _, by simp only [List.append_assoc]; rfl⟩
    · have rest : writeFields fields <:+: writeText g.1 ++ ':' :: ' ' :: g.2.writeChars ++
          (if fields.isEmpty then [] else ',' :: ' ' :: writeFields fields) := by
        rw [if_neg (by simp [List.ne_nil_of_mem mem])]
        exact ((List.suffix_append [',', ' '] _).trans (List.suffix_append _ _)).isInfix
      exact ⟨(ih mem).1.trans rest, (ih mem).2.trans rest⟩

/-- The written form of a value has the written form of each text inside the value. -/
theorem HasText.infix_writeChars (h : v.HasText s) : writeText s <:+: v.writeChars := by
  induction h with
  | self => exact List.infix_rfl
  | item mem _ ih =>
    exact (ih.trans (infix_writeItems mem)).trans ⟨['['], [']'], by rw [writeChars]; rfl⟩
  | value mem _ ih =>
    exact (ih.trans (infix_writeFields mem).2).trans ⟨['\x7b'], ['\x7d'], by rw [writeChars]; rfl⟩
  | key mem =>
    exact (infix_writeFields mem).1.trans ⟨['\x7b'], ['\x7d'], by rw [writeChars]; rfl⟩

/-- Sorting the keys keeps the texts inside a value. -/
theorem HasText.sortKeys (h : v.HasText s) : v.sortKeys.HasText s := by
  induction h with
  | self => exact .self
  | @item items v mem _ ih =>
    rw [Json.sortKeys, sortItems_eq_map]
    exact .item (List.mem_map_of_mem mem) ih
  | @value fields f mem _ ih =>
    rw [Json.sortKeys, sortFields_eq_map]
    exact .value (List.mem_mergeSort.mpr (List.mem_map_of_mem mem)) ih
  | @key fields v mem =>
    rw [Json.sortKeys, sortFields_eq_map]
    exact .key (List.mem_mergeSort.mpr (List.mem_map_of_mem mem))

/-- The document for a value has the written form of each text inside it. -/
theorem HasText.infix_asText (h : v.HasText s) (nested : v ≠ .str s) :
    s.toList.flatMap writeChar <:+: v.asText.toList := by
  have document : s.toList.flatMap writeChar <:+: v.sortKeys.write.toList := by
    rw [write, String.toList_ofList]
    exact List.IsInfix.trans ⟨['"'], ['"'], rfl⟩ h.sortKeys.infix_writeChars
  cases h with
  | self => exact absurd rfl nested
  | item => exact document
  | value => exact document
  | key => exact document

/-! ### The characters of documents -/

/-- Printable ASCII, in which documents are written. -/
def IsDocumentChar (c : Char) : Prop :=
  32 ≤ c.toNat ∧ c.toNat < 127

instance : DecidablePred IsDocumentChar := fun _ => inferInstanceAs (Decidable (_ ∧ _))

/-- A character of documents that is written as it is. -/
def IsPlain (c : Char) : Prop :=
  IsDocumentChar c ∧ c ≠ '"' ∧ c ≠ '\\'

instance : DecidablePred IsPlain := fun _ => inferInstanceAs (Decidable (_ ∧ _ ∧ _))

theorem writeChar_of_plain {c : Char} (h : IsPlain c) : writeChar c = [c] := by
  obtain ⟨⟨low, high⟩, quote, backslash⟩ := h
  have control {d : Char} (hd : d.toNat < 32) : ¬(c == d) = true := fun h => by
    rw [eq_of_beq h] at low
    omega
  have code {n : Nat} (hn : n < 32) : ¬(c.toNat == n) = true := fun h => by
    rw [beq_iff_eq] at h
    omega
  rw [writeChar, if_neg (by simp [quote, backslash]), if_neg (control (by decide)),
    if_neg (control (by decide)), if_neg (control (by decide)), if_neg (code (by decide)),
    if_neg (code (by decide)), if_pos (by simp [low, high])]

/-- In a document, a backslash and a quotation mark are escaped, and other characters of documents
are written as they are. -/
theorem writeChar_cases {c : Char} (h : IsDocumentChar c) :
    writeChar c = ['\\', c] ∧ (c = '\\' ∨ c = '"') ∨ writeChar c = [c] ∧ IsPlain c := by
  by_cases backslash : c = '\\'
  · exact .inl ⟨by rw [backslash]; rfl, .inl backslash⟩
  by_cases quote : c = '"'
  · exact .inl ⟨by rw [quote]; rfl, .inr quote⟩
  · have plain : IsPlain c := ⟨h, quote, backslash⟩
    exact .inr ⟨writeChar_of_plain plain, plain⟩

theorem isDocumentChar_lowerHexDigit {k : Nat} (h : k < 16) :
    IsDocumentChar (Text.lowerHexDigit k) := by
  have hall : ∀ k < 16, IsDocumentChar (Text.lowerHexDigit k) := by decide
  exact hall k h

theorem isDocumentChar_unitEscape (n : Nat) : ∀ c ∈ unitEscape n, IsDocumentChar c := by
  intro c hc
  simp only [unitEscape, Text.hexDigits, List.nil_append, List.cons_append, List.mem_cons,
    List.not_mem_nil, or_false] at hc
  rcases hc with rfl | rfl | rfl | rfl | rfl | rfl
  · decide
  · decide
  all_goals exact isDocumentChar_lowerHexDigit (Nat.mod_lt _ (by decide))

/-- **Documents are printable ASCII**, whatever the characters of a text are. -/
theorem isDocumentChar_writeChar (c : Char) : ∀ d ∈ writeChar c, IsDocumentChar d := by
  have escaped {e : Char} (he : IsDocumentChar e) : ∀ d ∈ ['\\', e], IsDocumentChar d := by
    rintro d (_ | ⟨_, _ | ⟨_, ⟨⟩⟩⟩)
    · decide
    · exact he
  rw [writeChar]
  split
  · next h =>
    rw [Bool.or_eq_true, beq_iff_eq, beq_iff_eq] at h
    exact escaped (by rcases h with rfl | rfl <;> decide)
  split
  · exact escaped (by decide)
  split
  · exact escaped (by decide)
  split
  · exact escaped (by decide)
  split
  · exact escaped (by decide)
  split
  · exact escaped (by decide)
  split
  · next h =>
    intro d hd
    rw [List.mem_singleton.mp hd]
    simpa [IsDocumentChar] using h
  split
  · exact isDocumentChar_unitEscape _
  · intro d hd
    rcases List.mem_append.mp hd with hd | hd
    · exact isDocumentChar_unitEscape _ d hd
    · exact isDocumentChar_unitEscape _ d hd

/-! ### Texts in one piece -/

/-- The text is in one piece in its written form: it is made of plain characters, with any number of
backslashes and perhaps a quotation mark in front of them and any number of backslashes behind
them. -/
def WrittenAsIs (cs : List Char) : Prop :=
  ∃ i quote plain j, (quote = [] ∨ quote = ['"']) ∧ (∀ c ∈ plain, IsPlain c) ∧
    cs = List.replicate i '\\' ++ (quote ++ (plain ++ List.replicate j '\\'))

theorem flatMap_writeChar_plain {plain : List Char} (h : ∀ c ∈ plain, IsPlain c) :
    plain.flatMap writeChar = plain := by
  induction plain with
  | nil => rfl
  | cons c plain ih =>
    obtain ⟨hc, rest⟩ := List.forall_mem_cons.mp h
    rw [List.flatMap_cons, writeChar_of_plain hc, ih rest]
    rfl

/-- Of the two backslashes for each one, the text has one and its surroundings have the other. -/
theorem flatMap_writeChar_backslashes (n : Nat) :
    (List.replicate n '\\').flatMap writeChar = List.replicate n '\\' ++ List.replicate n '\\' := by
  induction n with
  | zero => rfl
  | succ n ih =>
    rw [List.replicate_succ, List.flatMap_cons, ih, List.cons_append, List.append_cons,
      ← List.replicate_succ', List.replicate_succ, List.cons_append]
    rfl

/-- A text in one piece occurs in its written form. -/
theorem WrittenAsIs.occurs_written {cs : List Char} (h : WrittenAsIs cs) :
    cs <:+: cs.flatMap writeChar := by
  obtain ⟨i, quote, plain, j, hquote, hplain, rfl⟩ := h
  rw [List.flatMap_append, List.flatMap_append, List.flatMap_append, flatMap_writeChar_plain hplain,
    flatMap_writeChar_backslashes, flatMap_writeChar_backslashes]
  rcases hquote with rfl | rfl
  · exact ⟨List.replicate i '\\', List.replicate j '\\', by
      simp only [List.nil_append, List.flatMap_nil, List.append_assoc]⟩
  · -- the backslash that escapes the quotation mark is the last one in front of it
    have turned (cs : List Char) : List.replicate i '\\' ++ '\\' :: cs =
        '\\' :: (List.replicate i '\\' ++ cs) := by
      rw [List.append_cons, ← List.replicate_succ', List.replicate_succ, List.cons_append]
    have escaped : ['"'].flatMap writeChar = ['\\', '"'] := rfl
    refine ⟨List.replicate i '\\' ++ ['\\'], List.replicate j '\\', ?_⟩
    rw [escaped]
    simp only [List.append_assoc, List.cons_append, List.nil_append]
    rw [turned ('"' :: _)]

/-- A text in one piece is printable ASCII. -/
theorem WrittenAsIs.documents (h : WrittenAsIs cs) : ∀ c ∈ cs, IsDocumentChar c := by
  obtain ⟨i, quote, plain, j, hquote, hplain, rfl⟩ := h
  have backslash {n : Nat} : ∀ c ∈ List.replicate n '\\', IsDocumentChar c := by
    intro c hc
    rw [List.eq_of_mem_replicate hc]
    decide
  simp only [List.forall_mem_append]
  refine ⟨backslash, ?_, fun c hc => (hplain c hc).1, backslash⟩
  rcases hquote with rfl | rfl
  · exact fun _ h => nomatch h
  · exact List.forall_mem_singleton.mpr (by decide)

/-! ### Marks -/

/-- Behind a character other than a backslash there are `m` backslashes and then another character,
which is a quotation mark if there are no backslashes.  These are escaped. -/
structure HasMark (cs : List Char) (x : Char) (m : Nat) (y : Char) : Prop where
  before : x ≠ '\\'
  after : y ≠ '\\'
  mark : 0 < m ∨ y = '"'
  here : x :: (List.replicate m '\\' ++ [y]) <:+: cs

variable {cs ds : List Char} {x y c : Char} {m : Nat}

theorem HasMark.mono (h : HasMark cs x m y) (sub : cs <:+: ds) : HasMark ds x m y :=
  { h with here := h.here.trans sub }

/-- A text begins with some number of backslashes. -/
theorem exists_backslashes (cs : List Char) :
    ∃ n rest, cs = List.replicate n '\\' ++ rest ∧ rest.head? ≠ some '\\' := by
  induction cs with
  | nil => exact ⟨0, [], rfl, by simp⟩
  | cons c cs ih =>
    by_cases hc : c = '\\'
    · obtain ⟨n, rest, rfl, hrest⟩ := ih
      exact ⟨n + 1, rest, by rw [hc, List.replicate_succ, List.cons_append], hrest⟩
    · exact ⟨0, c :: cs, rfl, by simpa using hc⟩

/-- Behind a character other than a backslash, a text without marks is plain but for backslashes at
its end. -/
theorem exists_plain_of_no_mark (documents : ∀ d ∈ cs, IsDocumentChar d) (hc : c ≠ '\\')
    (none : ∀ x m y, ¬HasMark (c :: cs) x m y) :
    ∃ plain j, (∀ d ∈ plain, IsPlain d) ∧ cs = plain ++ List.replicate j '\\' := by
  induction cs generalizing c with
  | nil => exact ⟨[], 0, (fun _ h => nomatch h), rfl⟩
  | cons d cs ih =>
    obtain ⟨document, rest⟩ := List.forall_mem_cons.mp documents
    by_cases hd : d = '\\'
    · obtain ⟨n, behind, hcs, hrest⟩ := exists_backslashes cs
      cases behind with
      | nil =>
        exact ⟨[], n + 1, (fun _ h => nomatch h), by rw [hd, hcs]; simp [List.replicate_succ]⟩
      | cons y behind =>
        refine absurd ⟨hc, by simpa using hrest, .inl n.succ_pos, ⟨[], behind, ?_⟩⟩
          (none c (n + 1) y)
        simp [hd, hcs, List.replicate_succ]
    · have quote : d ≠ '"' := fun quote =>
        none c 0 d ⟨hc, hd, .inr quote, ⟨[], cs, rfl⟩⟩
      obtain ⟨plain, j, hplain, rfl⟩ := ih rest hd fun x m y h =>
        none x m y (h.mono (List.suffix_cons c _).isInfix)
      exact ⟨d :: plain, j, List.forall_mem_cons.mpr ⟨⟨document, quote, hd⟩, hplain⟩, rfl⟩

/-- A text without marks is in one piece. -/
theorem writtenAsIs_of_no_mark (documents : ∀ d ∈ cs, IsDocumentChar d)
    (none : ∀ x m y, ¬HasMark cs x m y) : WrittenAsIs cs := by
  obtain ⟨i, rest, rfl, hrest⟩ := exists_backslashes cs
  cases rest with
  | nil => exact ⟨i, [], [], 0, .inl rfl, (fun _ h => nomatch h), rfl⟩
  | cons c rest =>
    have hc : c ≠ '\\' := by simpa using hrest
    obtain ⟨document, hrest⟩ := List.forall_mem_cons.mp (List.forall_mem_append.mp documents).2
    obtain ⟨plain, j, hplain, rfl⟩ := exists_plain_of_no_mark hrest hc fun x m y h =>
      none x m y (h.mono (List.suffix_append _ _).isInfix)
    by_cases quote : c = '"'
    · exact ⟨i, ['"'], plain, j, .inr rfl, hplain, by rw [quote]; rfl⟩
    · exact ⟨i, [], c :: plain, j, .inl rfl,
        List.forall_mem_cons.mpr ⟨⟨document, quote, hc⟩, hplain⟩, rfl⟩

/-! ### Marks in documents -/

/-- A mark at the front of a text, or one behind it. -/
theorem HasMark.cons_cases (h : HasMark (c :: cs) x m y) :
    x = c ∧ List.replicate m '\\' ++ [y] <+: cs ∨ HasMark cs x m y := by
  rcases List.infix_cons_iff.mp h.here with front | inside
  · exact .inl (List.cons_prefix_cons.mp front)
  · exact .inr { h with here := inside }

/-- What is behind the first character of a mark begins with a backslash or a quotation mark. -/
theorem HasMark.head {d : Char} (h : HasMark ds x m y)
    (front : List.replicate m '\\' ++ [y] <+: d :: cs) : d = '\\' ∨ d = '"' := by
  cases m with
  | zero =>
    obtain rfl := (List.cons_prefix_cons.mp front).1
    exact .inr (h.mark.resolve_left (Nat.lt_irrefl 0))
  | succ m => exact .inl (List.cons_prefix_cons.mp front).1.symm

/-- A run of backslashes with a character behind it in the written form of a text, ahead of a plain
character that is not this one, comes from a shorter run in the text with the same character behind
it: each backslash is written as two, and a quotation mark has one. -/
theorem run_of_written (hc : IsPlain c) (documents : ∀ d ∈ cs, IsDocumentChar d) (hy : y ≠ '\\')
    (hyc : y ≠ c)
    (front : List.replicate m '\\' ++ [y] <+: cs.flatMap writeChar ++ c :: ds) :
    ∃ n, List.replicate n '\\' ++ [y] <+: cs ∧ m = 2 * n + if y = '"' then 1 else 0 := by
  induction cs generalizing m with
  | nil =>
    cases m with
    | zero => exact absurd (List.cons_prefix_cons.mp front).1 hyc
    | succ m => exact absurd (List.cons_prefix_cons.mp front).1.symm hc.2.2
  | cons d cs ih =>
    obtain ⟨document, rest⟩ := List.forall_mem_cons.mp documents
    rw [List.flatMap_cons, List.append_assoc] at front
    rcases writeChar_cases document with ⟨written, hd⟩ | ⟨written, hd⟩
    · rw [written] at front
      match m, front with
      | 0, front => exact absurd (List.cons_prefix_cons.mp front).1 hy
      | 1, front =>
        obtain rfl := (List.cons_prefix_cons.mp (List.cons_prefix_cons.mp front).2).1
        exact ⟨0, List.cons_prefix_cons.mpr ⟨rfl, List.nil_prefix⟩,
          by rw [if_pos (hd.resolve_left hy)]⟩
      | m + 2, front =>
        obtain ⟨hd, front⟩ := List.cons_prefix_cons.mp (List.cons_prefix_cons.mp front).2
        obtain ⟨n, hn, hm⟩ := ih rest front
        exact ⟨n + 1, List.cons_prefix_cons.mpr ⟨hd, hn⟩, by omega⟩
    · rw [written] at front
      cases m with
      | zero =>
        obtain rfl := (List.cons_prefix_cons.mp front).1
        exact ⟨0, List.cons_prefix_cons.mpr ⟨rfl, List.nil_prefix⟩, by rw [if_neg hd.2.1]⟩
      | succ m => exact absurd (List.cons_prefix_cons.mp front).1.symm hd.2.2

/-- **A mark in the written form of a text** comes from a mark of the text with fewer
backslashes. -/
theorem HasMark.of_written (hc : IsPlain c) (documents : ∀ d ∈ cs, IsDocumentChar d) (hxc : x ≠ c)
    (hyc : y ≠ c) (free : ¬HasMark ds x m y) (h : HasMark (cs.flatMap writeChar ++ c :: ds) x m y) :
    ∃ n < m, HasMark cs x n y := by
  induction cs with
  | nil =>
    rcases h.cons_cases with ⟨hx, -⟩ | h
    · exact absurd hx hxc
    · exact absurd h free
  | cons d cs ih =>
    obtain ⟨document, rest⟩ := List.forall_mem_cons.mp documents
    have behind (h : HasMark (cs.flatMap writeChar ++ c :: ds) x m y) :
        ∃ n < m, HasMark (d :: cs) x n y := by
      obtain ⟨n, hn, h⟩ := ih rest h
      exact ⟨n, hn, h.mono (List.suffix_cons d cs).isInfix⟩
    have front (hx : x = d)
        (hrun : List.replicate m '\\' ++ [y] <+: cs.flatMap writeChar ++ c :: ds) :
        ∃ n < m, HasMark (d :: cs) x n y := by
      obtain ⟨n, hn, hm⟩ := run_of_written hc rest h.after hyc hrun
      refine ⟨n, ?_, h.before, h.after, ?_, (List.cons_prefix_cons.mpr ⟨hx, hn⟩).isInfix⟩
      · rcases h.mark with pos | rfl
        · omega
        · rw [if_pos rfl] at hm
          omega
      · by_cases quote : y = '"'
        · exact .inr quote
        · have pos := h.mark.resolve_right quote
          rw [if_neg quote] at hm
          exact .inl (by omega)
    rw [List.flatMap_cons, List.append_assoc] at h
    rcases writeChar_cases document with ⟨written, -⟩ | ⟨written, -⟩
    · rw [written] at h
      rcases h.cons_cases with ⟨hx, -⟩ | h
      · exact absurd hx h.before
      rcases h.cons_cases with ⟨hx, hrun⟩ | h
      · exact front hx hrun
      · exact behind h
    · rw [written] at h
      rcases h.cons_cases with ⟨hx, hrun⟩ | h
      · exact front hx hrun
      · exact behind h

/-- A mark has a backslash or a quotation mark behind its first character. -/
theorem HasMark.exists_behind (h : HasMark (c :: cs) x m y) : ∃ d ∈ cs, d = '\\' ∨ d = '"' := by
  induction cs generalizing c with
  | nil =>
    rcases h.cons_cases with ⟨-, front⟩ | h
    · simp at front
    · simpa using h.here
  | cons d cs ih =>
    rcases h.cons_cases with ⟨-, front⟩ | h
    · exact ⟨d, List.mem_cons_self, h.head front⟩
    · obtain ⟨e, he, hmark⟩ := ih h
      exact ⟨e, List.mem_cons_of_mem d he, hmark⟩

/-- Neither a backslash nor a quotation mark. -/
def IsUnmarked (cs : List Char) : Prop :=
  ∀ c ∈ cs, c ≠ '\\' ∧ c ≠ '"'

/-- Ahead of a written text, there is no mark behind a character other than the last one. -/
theorem HasMark.of_front {front : List Char} (hc : IsPlain c) (hxc : x ≠ c)
    (unmarked : IsUnmarked front) (hx : front.getLast? ≠ some x)
    (h : HasMark (front ++ '"' :: c :: cs) x m y) : HasMark cs x m y := by
  induction front with
  | nil =>
    rcases h.cons_cases with ⟨-, run⟩ | h
    · rcases h.head run with backslash | quote
      · exact absurd backslash hc.2.2
      · exact absurd quote hc.2.1
    · exact h.cons_cases.resolve_left fun front => hxc front.1
  | cons d front ih =>
    have rest : IsUnmarked front := (List.forall_mem_cons.mp unmarked).2
    rcases h.cons_cases with ⟨rfl, run⟩ | h
    · cases front with
      | nil => exact absurd rfl hx
      | cons e front =>
        obtain ⟨backslash, quote⟩ := rest e List.mem_cons_self
        exact absurd (h.head run) (not_or_intro backslash quote)
    · refine ih rest (fun hlast => hx ?_) h
      rw [List.getLast?_cons, hlast]
      rfl

/-- **A text with a mark does not occur in its written form**, in the middle of a document: each
occurrence of a mark would come from one with fewer backslashes. -/
theorem HasMark.missed {front back : List Char} (hc : IsPlain c)
    (documents : ∀ d ∈ cs, IsDocumentChar d) (hxc : x ≠ c) (hyc : y ≠ c)
    (hfront : IsUnmarked front) (hx : front.getLast? ≠ some x) (hback : IsUnmarked back)
    (h : HasMark cs x m y) :
    ¬cs <:+: front ++ '"' :: c :: (cs.flatMap writeChar ++ c :: '"' :: back) := by
  intro occurs
  induction m using Nat.strongRecOn with
  | ind m ih =>
    have free : ¬HasMark ('"' :: back) x m y := fun h => by
      obtain ⟨d, hd, hmark⟩ := h.exists_behind
      exact absurd hmark (not_or_intro (hback d hd).1 (hback d hd).2)
    obtain ⟨n, hn, h⟩ := HasMark.of_written hc documents hxc hyc free
      ((h.mono occurs).of_front hc hxc hfront hx)
    exact ih n hn h

end LogAlert.Json
