import LogAlert.Match.Answer
import LogAlert.Proofs.MissedTexts

/-!
# Searching for text

A word or a phrase is looked for in the message and in the metadata values of a record, whatever the
case of letters.  In the message, and in values that are texts, every text is found that has no open
sigma; inside other values every text is found that is in one piece in its written form.  Any other
text is missed in some record that has it.

The message comes first, and then the values in their order.  A search fails at a value with an
integer that is too long to be written, unless it has found the text before.

## Main definitions

* `Record.Bears`, `Record.Nests` : the texts that are values of a record, and those inside them.
* `Record.Finds` : what all tokens that ask for a text answer if the record has it.
* `Record.Blocks` : a search comes to a value that cannot be written.

## Main results

* `Record.finds_iff_containsText`, `Record.blocks_iff_containsText` : the tokens agree.
* `Record.finds_message_iff`, `Record.finds_value_iff`, `Record.finds_nested_iff` : the texts that
  are found in all records that have them.
* `Record.finds_text` : what is promised of a search.
-/

namespace LogAlert

namespace Record

/-- The text is a value of the record's metadata. -/
def Bears (r : Record) (s : String) : Prop :=
  ∃ key, (key, .str s) ∈ r.metadata

/-- The text is inside a value of the metadata, at any depth. -/
def Nests (r : Record) (s : String) : Prop :=
  ∃ f ∈ r.metadata, f.2.Nests s

/-- The record answers a word and a phrase that ask for a text, and does not answer them when they
are excluded. -/
structure Finds (r : Record) (t : String) : Prop where
  term : (⟨false, .term t⟩ : Token).holds r = .ok true
  phrase : (⟨false, .phrase t⟩ : Token).holds r = .ok true
  excludedTerm : (⟨true, .term t⟩ : Token).holds r = .ok false
  excludedPhrase : (⟨true, .phrase t⟩ : Token).holds r = .ok false

/-- There is a value with an integer that is too long to be written, and the text is neither in the
message nor in the values before the first such value. -/
def Blocks (r : Record) (t : String) : Prop :=
  Match.containsFolded t r.message = false ∧
    ∃ before f after, r.metadata = before ++ f :: after ∧ f.2.fits = false ∧
      ∀ g ∈ before, g.2.fits ∧ Match.containsFolded t g.2.asText = false

variable {r : Record} {t s : String}

/-- All tokens that ask for a text ask whether the record contains it. -/
theorem finds_iff_containsText : r.Finds t ↔ Match.containsText r t = .ok true := by
  constructor
  · intro h
    have term := h.term
    rw [Token.holds, Filter.holds] at term
    cases contains : Match.containsText r t with
    | error e =>
      rw [contains] at term
      cases term
    | ok b =>
      rw [contains] at term
      rw [← Except.ok.inj term, Bool.bne_false]
  · intro h
    have holds {f : Filter} (hf : f.holds r = Match.containsText r t) (excluded : Bool) :
        (⟨excluded, f⟩ : Token).holds r = .ok (true != excluded) := by
      rw [Token.holds, hf, h]
      rfl
    have term := holds (f := .term t) rfl
    have phrase := holds (f := .phrase t) rfl
    exact ⟨term false, phrase false, term true, phrase true⟩

theorem blocks_iff_containsText : r.Blocks t ↔ ∃ e, Match.containsText r t = .error e :=
  Match.containsText_error_iff.symm

/-- A token fails where its filter does. -/
theorem holds_error_iff {f : Filter} (asks : f.holds r = Match.containsText r t) (excluded : Bool)
    {e : Failure} :
    (⟨excluded, f⟩ : Token).holds r = .error e ↔ Match.containsText r t = .error e := by
  rw [Token.holds, asks]
  cases Match.containsText r t with
  | error e' => exact Iff.rfl
  | ok b =>
    constructor
    all_goals
      intro h
      cases h

/-- Where a search is blocked, all tokens that ask for the text fail. -/
theorem blocks_iff : r.Blocks t ↔ ∀ excluded, ∃ e,
    (⟨excluded, .term t⟩ : Token).holds r = .error e ∧
      (⟨excluded, .phrase t⟩ : Token).holds r = .error e := by
  have term : (Filter.term t).holds r = Match.containsText r t := rfl
  have phrase : (Filter.phrase t).holds r = Match.containsText r t := rfl
  simp only [blocks_iff_containsText, holds_error_iff term, holds_error_iff phrase, and_self,
    forall_const]

theorem containsText_of_message (h : Text.lower t.toList <:+: Text.lower r.message.toList) :
    Match.containsText r t = .ok true :=
  if_pos (Text.contains_iff_infix.mpr h)

/-- A text that one of the values has, if that value can be written, is found unless the search is
blocked. -/
theorem finds_iff_not_blocks {f : String × Json} (mem : f ∈ r.metadata)
    (has : f.2.fits → Text.lower t.toList <:+: Text.lower f.2.asText.toList) :
    r.Finds t ↔ ¬r.Blocks t := by
  rw [finds_iff_containsText, blocks_iff_containsText]
  cases contains : Match.containsText r t with
  | error e => exact iff_of_false nofun (not_not_intro ⟨e, rfl⟩)
  | ok found =>
    cases found with
    | true => exact iff_of_true rfl nofun
    | false =>
      -- all values were asked, so this one can be written and does not have the text
      obtain ⟨fits, lacks⟩ := (Match.containsText_false_iff.mp contains).2 f mem
      have occurs : Match.containsFolded t f.2.asText = true :=
        Text.contains_iff_infix.mpr (has fits)
      exact absurd (lacks.symm.trans occurs) nofun

/-- A record of a message alone. -/
def ofMessage (s : String) : Record where
  id := 1
  timestamp := ⟨0, some 0⟩
  level := "info"
  message := s
  source := ""
  metadata := []

theorem fits_ofMessage : (ofMessage s).Fits := List.forall_mem_nil _

theorem finds_ofMessage_iff :
    (ofMessage s).Finds t ↔ Text.lower t.toList <:+: Text.lower s.toList := by
  rw [finds_iff_containsText, Match.containsText_eq fits_ofMessage, Except.ok.injEq]
  simp [ofMessage, Match.containsFolded, Text.contains_iff_infix]

/-- A record of a value alone. -/
def ofValue (v : Json) : Record :=
  { ofMessage "" with metadata := [("value", v)] }

theorem fits_ofValue {v : Json} (fits : v.fits) : (ofValue v).Fits := fun f hf => by
  rw [List.mem_singleton.mp hf]
  exact fits

theorem finds_ofValue_iff {v : Json} (fits : v.fits) : (ofValue v).Finds t ↔
    Text.lower t.toList <:+: [] ∨ Text.lower t.toList <:+: Text.lower v.asText.toList := by
  rw [finds_iff_containsText, Match.containsText_eq (fits_ofValue fits), Except.ok.injEq]
  simp only [ofValue, ofMessage, Match.containsFolded, List.any_cons, List.any_nil, Bool.or_false,
    Bool.or_eq_true, Text.contains_iff_infix]
  rfl

theorem not_blocks_of_fits (fits : r.Fits) : ¬r.Blocks t := by
  rintro ⟨-, before, f, after, parts, long, -⟩
  have short := fits f (parts ▸ List.mem_append_right before List.mem_cons_self)
  exact absurd (short.symm.trans long) nofun

/-- A text is found in every message that contains it exactly if it has no open sigma. -/
theorem finds_message_iff :
    (∀ r : Record, t.toList <:+: r.message.toList → r.Finds t) ↔ ¬Text.HasOpenSigma t.toList := by
  rw [← Text.lower_infix_iff]
  constructor
  · intro found ds occurs
    have finds := found (ofMessage (String.ofList ds))
    rw [finds_ofMessage_iff, ofMessage, String.toList_ofList] at finds
    exact finds occurs
  · intro found r occurs
    exact finds_iff_containsText.mpr (containsText_of_message (found _ occurs))

/-- A text without open sigma is found in every record that has a text with it as a value, unless
the search is blocked. -/
theorem finds_value_iff (closed : ¬Text.HasOpenSigma t.toList) (bears : r.Bears s)
    (occurs : t.toList <:+: s.toList) : r.Finds t ↔ ¬r.Blocks t := by
  obtain ⟨key, mem⟩ := bears
  exact finds_iff_not_blocks mem fun _ => Text.lower_infix_iff.mpr closed _ occurs

/-- A text is found in every record that has it inside a metadata value, unless the search is
blocked, exactly if it is in one piece in its written form. -/
theorem finds_nested_iff :
    (∀ (r : Record) (s : String), r.Nests s → t.toList <:+: s.toList →
      (r.Finds t ↔ ¬r.Blocks t)) ↔ Json.WrittenAsIs t.toList := by
  rw [← Json.found_iff_writtenAsIs]
  constructor
  · intro found v s fits nests occurs
    have finds := (found (ofValue v) s ⟨_, List.mem_singleton_self _, nests⟩ occurs).mpr
      (not_blocks_of_fits (fits_ofValue fits))
    rcases (finds_ofValue_iff fits).mp finds with empty | found
    · rw [List.infix_nil.mp empty]
      exact List.nil_infix
    · exact found
  · rintro found r s ⟨f, mem, nests⟩ occurs
    exact finds_iff_not_blocks mem fun fits => found f.2 s fits nests occurs

/-- **The texts that are found.**  The message, and metadata values that are texts, are searched as
they are: a text is found in all records where one of them contains it, if it has no open sigma.
Other values are searched in their documents: a text is found in all records that have it inside
such a value, at any depth, exactly if it is in one piece in its written form.  The search for a text
in values may come to one that cannot be written; then, and only then, it fails. -/
theorem finds_text (t : String) :
    (¬Text.HasOpenSigma t.toList → ∀ r : Record,
        (t.toList <:+: r.message.toList → r.Finds t) ∧
          ∀ s, r.Bears s → t.toList <:+: s.toList → (r.Finds t ↔ ¬r.Blocks t)) ∧
      ((∀ (r : Record) (s : String), r.Nests s → t.toList <:+: s.toList →
          (r.Finds t ↔ ¬r.Blocks t)) ↔ Json.WrittenAsIs t.toList) ∧
      ∀ r : Record, r.Blocks t ↔ ∀ excluded, ∃ e,
        (⟨excluded, .term t⟩ : Token).holds r = .error e ∧
          (⟨excluded, .phrase t⟩ : Token).holds r = .error e :=
  ⟨fun closed r => ⟨finds_message_iff.mpr closed r, fun _ => finds_value_iff closed⟩,
    finds_nested_iff, fun _ => blocks_iff⟩

/-- A word with an accent is found in all messages and all texts that are values, and a path inside
all values, where no search is blocked. -/
theorem finds_text_of_words :
    (∀ r : Record, ("café".toList <:+: r.message.toList → r.Finds "café") ∧
      ∀ s, r.Bears s → "café".toList <:+: s.toList → (r.Finds "café" ↔ ¬r.Blocks "café")) ∧
      ∀ (r : Record) (s : String), r.Nests s → "/var/log".toList <:+: s.toList →
        (r.Finds "/var/log" ↔ ¬r.Blocks "/var/log") := by
  refine ⟨(finds_text "café").1 ?_, (finds_text "/var/log").2.1.mpr ?_⟩
  · rintro ⟨before, after, hcs, -⟩
    have sigma : '\u03a3' ∈ "café".toList := by
      rw [hcs]
      exact List.mem_append_right _ List.mem_cons_self
    exact absurd sigma (by decide)
  · exact ⟨0, [], "/var/log".toList, 0, .inl rfl, List.all_iff_forall_prop.mp (by decide), rfl⟩

namespace Sample

/-- A record with a list of words. -/
def visit : Record :=
  ofValue (.arr [.str "café"])

end Sample

/-- Not every text is found: a letter outside ASCII is missed inside a list. -/
theorem accented_text_is_missed :
    ¬∀ (r : Record) (t s : String), t ≠ "" → s = r.message ∨ r.Bears s ∨ r.Nests s →
      t.toList <:+: s.toList → r.Finds t := by
  intro finds
  have nests : Sample.visit.Nests "café" :=
    ⟨_, List.mem_singleton_self _, .item List.mem_cons_self .self, nofun⟩
  have found := finds_iff_containsText.mp
    (finds Sample.visit "café" "café" (by decide) (.inr (.inr nests)) List.infix_rfl)
  have missed : (Match.containsText Sample.visit "café").toOption = some false := by decide +kernel
  rw [found] at missed
  cases missed

end Record

end LogAlert
