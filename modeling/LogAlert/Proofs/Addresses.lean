import LogAlert.Alert.Validation
import LogAlert.Notify.Header
import Mathlib.Data.List.Count
import Mathlib.Data.List.TakeWhile

/-!
# The addresses of mail channels

A channel for mail is accepted if its configuration has a text that is an address: two parts around
an at sign, without blanks, commas and semicolons.  One line feed behind the address is passed over,
and no other character is.  Either way the text is one line, and can be written as the header line
of the recipient.

## Main definitions

* `IsAddress` : the texts that name one recipient.

## Main results

* `isEmail_iff` : what is accepted as an address.
* `Header.write_of_splitBreaks` : a text of one line can be written as a header line.
* `Channel.validate_email_iff` : which channels for mail are accepted.
* `Channel.line_feed_is_accepted` : an accepted channel whose text is no address.
-/

namespace LogAlert

/-- A text that names one recipient: there is one at sign, with something on both sides of it, and
no blank, comma or semicolon. -/
structure IsAddress (cs : List Char) : Prop where
  one_sign : cs.count '@' = 1
  parts : ∃ user host, user ≠ [] ∧ host ≠ [] ∧ cs = user ++ '@' :: host
  clean : ∀ c ∈ cs, Text.isBlank c = false ∧ c ≠ ',' ∧ c ≠ ';'

/-! ### What is accepted -/

theorem isEmailChar_iff {c : Char} :
    isEmailChar c ↔ c ≠ '@' ∧ Text.isBlank c = false ∧ c ≠ ',' ∧ c ≠ ';' := by
  simp [isEmailChar]
  tauto

/-- An address is divided at its sign into runs of characters without special meaning. -/
theorem isAddress_iff {cs : List Char} :
    IsAddress cs ↔ ∃ user host, user ≠ [] ∧ host ≠ [] ∧ cs = user ++ '@' :: host ∧
      (∀ c ∈ user, isEmailChar c) ∧ ∀ c ∈ host, isEmailChar c := by
  constructor
  · rintro ⟨sign, ⟨user, host, huser, hhost, rfl⟩, clean⟩
    rw [List.count_append, List.count_cons_self] at sign
    have absent_user : '@' ∉ user := List.count_eq_zero.mp (by omega)
    have absent_host : '@' ∉ host := List.count_eq_zero.mp (by omega)
    refine ⟨user, host, huser, hhost, rfl, fun c hc => ?_, fun c hc => ?_⟩
    · exact isEmailChar_iff.mpr
        ⟨fun h => absent_user (h ▸ hc), clean c (List.mem_append_left _ hc)⟩
    · exact isEmailChar_iff.mpr ⟨fun h => absent_host (h ▸ hc),
        clean c (List.mem_append_right _ (List.mem_cons_of_mem _ hc))⟩
  · rintro ⟨user, host, huser, hhost, rfl, fits_user, fits_host⟩
    have absent_user : '@' ∉ user := fun h => (isEmailChar_iff.mp (fits_user _ h)).1 rfl
    have absent_host : '@' ∉ host := fun h => (isEmailChar_iff.mp (fits_host _ h)).1 rfl
    refine ⟨?_, ⟨user, host, huser, hhost, rfl⟩, fun c hc => ?_⟩
    · rw [List.count_append, List.count_cons_self, List.count_eq_zero.mpr absent_user,
        List.count_eq_zero.mpr absent_host]
    · rcases List.mem_append.mp hc with hc | hc
      · exact (isEmailChar_iff.mp (fits_user c hc)).2
      · rcases List.mem_cons.mp hc with rfl | hc
        · decide
        · exact (isEmailChar_iff.mp (fits_host c hc)).2

/-- The check of a text that is divided into its parts and what stands behind them. -/
theorem isEmail_append {user host tail : List Char} (fits_user : ∀ c ∈ user, isEmailChar c)
    (fits_host : ∀ c ∈ host, isEmailChar c) (stops : tail.head?.any isEmailChar = false) :
    isEmail (user ++ '@' :: (host ++ tail)) =
      (!user.isEmpty && !host.isEmpty && (tail.isEmpty || tail == ['\n'])) := by
  have htail : tail.takeWhile isEmailChar = [] ∧ tail.dropWhile isEmailChar = tail := by
    cases tail with
    | nil => exact ⟨rfl, rfl⟩
    | cons c cs =>
      have hc : ¬isEmailChar c := by simpa using stops
      exact ⟨List.takeWhile_cons_of_neg hc, List.dropWhile_cons_of_neg hc⟩
  have hsign : ¬isEmailChar '@' := by decide
  rw [isEmail]
  dsimp only
  rw [List.takeWhile_append_of_pos fits_user, List.dropWhile_append_of_pos fits_user,
    List.takeWhile_cons_of_neg hsign, List.dropWhile_cons_of_neg hsign, List.append_nil]
  change (!user.isEmpty && !((host ++ tail).takeWhile isEmailChar).isEmpty &&
    (((host ++ tail).dropWhile isEmailChar).isEmpty ||
      (host ++ tail).dropWhile isEmailChar == ['\n'])) = _
  rw [List.takeWhile_append_of_pos fits_host, List.dropWhile_append_of_pos fits_host, htail.1,
    htail.2, List.append_nil]

/-- **What is accepted as an address** is an address, or an address with one line feed behind it. -/
theorem isEmail_iff {cs : List Char} :
    isEmail cs ↔ ∃ address, IsAddress address ∧ (cs = address ∨ cs = address ++ ['\n']) := by
  constructor
  · intro accepted
    have hsplit := (List.takeWhile_append_dropWhile (p := isEmailChar) (l := cs)).symm
    rw [isEmail] at accepted
    dsimp only at accepted
    split at accepted
    · next rest hrest =>
      rw [hrest] at hsplit
      have hhost := (List.takeWhile_append_dropWhile (p := isEmailChar) (l := rest)).symm
      simp only [Bool.and_eq_true, Bool.not_eq_true', List.isEmpty_eq_false_iff, Bool.or_eq_true,
        List.isEmpty_iff, beq_iff_eq] at accepted
      obtain ⟨⟨user, host⟩, tail⟩ := accepted
      refine ⟨cs.takeWhile isEmailChar ++ '@' :: rest.takeWhile isEmailChar, isAddress_iff.mpr
        ⟨_, _, user, host, rfl, fun c => List.mem_takeWhile_imp, fun c => List.mem_takeWhile_imp⟩,
        ?_⟩
      rcases tail with nothing | feed
      · rw [nothing, List.append_nil] at hhost
        exact .inl (hhost ▸ hsplit)
      · rw [feed] at hhost
        rw [List.append_assoc, List.cons_append, ← hhost]
        exact .inr hsplit
    · cases accepted
  · rintro ⟨address, isAddress, accepted⟩
    obtain ⟨user, host, huser, hhost, rfl, fits_user, fits_host⟩ := isAddress_iff.mp isAddress
    have check (tail : List Char) (stops : tail.head?.any isEmailChar = false) :=
      isEmail_append fits_user fits_host stops
    have hparts : (!user.isEmpty && !host.isEmpty) = true := by simp [huser, hhost]
    rcases accepted with rfl | rfl
    · have plain := check [] rfl
      rwa [List.append_nil, hparts] at plain
    · have feed := check ['\n'] (by decide)
      rw [hparts] at feed
      rw [List.append_assoc, List.cons_append]
      exact feed

/-! ### Header lines -/

namespace Text

theorem isBreak_eq_false {c : Char} (h : isBlank c = false) : isBreak c = false := by
  simp only [isBlank, isBreak, Bool.or_eq_false_iff, Bool.and_eq_false_iff, decide_eq_false_iff_not,
    beq_eq_false_iff_ne] at h ⊢
  omega

theorem splitBreaksAfter_append {cs : List Char} (h : ∀ c ∈ cs, isBreak c = false)
    (line more : List Char) :
    splitBreaksAfter line (cs ++ more) = splitBreaksAfter (cs.reverse ++ line) more := by
  induction cs generalizing line with
  | nil => rfl
  | cons c cs ih =>
    obtain ⟨hc, rest⟩ := List.forall_mem_cons.mp h
    rw [List.cons_append, splitBreaksAfter, hc, if_neg Bool.false_ne_true, ih rest,
      List.reverse_cons, List.append_assoc, List.singleton_append]
    rintro _ rfl
    cases hc

/-- A text without line breaks is one line, and so it is with a line feed behind it. -/
theorem splitBreaks_of_one_line {cs line : List Char} (nonempty : line ≠ [])
    (h : ∀ c ∈ line, isBreak c = false) (text : cs = line ∨ cs = line ++ ['\n']) :
    splitBreaks cs = [line] := by
  rcases text with rfl | rfl
  · have hsplit := splitBreaksAfter_append h [] []
    rw [List.append_nil, List.append_nil] at hsplit
    rw [splitBreaks, hsplit, splitBreaksAfter, List.reverse_reverse, List.isEmpty_reverse,
      if_neg (by simpa using nonempty)]
  · have hbreak : splitBreaksAfter line.reverse ['\n'] = [line] := by
      rw [splitBreaksAfter, if_pos (by decide), List.reverse_reverse]
      · rfl
      · nofun
    rw [splitBreaks, splitBreaksAfter_append h, List.append_nil, hbreak]

end Text

/-- **A text of one line** can be written as a header line. -/
theorem Header.write_of_splitBreaks {cs line : List Char} (h : Text.splitBreaks cs = [line])
    (name : String) : Header.write name cs = .ok () := by
  rw [write, fold, h]
  split
  · rfl
  · rfl

/-- What is accepted as an address is one line. -/
theorem IsAddress.splitBreaks {address cs : List Char} (h : IsAddress address)
    (text : cs = address ∨ cs = address ++ ['\n']) : Text.splitBreaks cs = [address] := by
  have nonempty : address ≠ [] := by
    rintro rfl
    cases h.one_sign
  exact Text.splitBreaks_of_one_line nonempty
    (fun c hc => Text.isBreak_eq_false (h.clean c hc).1) text

/-! ### Channels -/

/-- A text in a configuration is a field of it. -/
theorem configField_eq_text_iff {config : Json} {key s : String} :
    configField config key = .ok (.str s) ↔
      ∃ fields, config = .obj fields ∧ Json.field? fields key = some (.str s) := by
  constructor
  · intro h
    unfold configField at h
    split at h
    · next fields =>
      cases hfield : Json.field? fields key with
      | none =>
        rw [hfield] at h
        cases h
      | some v =>
        rw [hfield] at h
        exact ⟨fields, rfl, hfield.trans (congrArg some (Except.ok.inj h))⟩
    · split at h <;> cases h
  · rintro ⟨fields, rfl, hfield⟩
    rw [configField, hfield, Option.getD_some]

/-- A text of a configuration passes its check if it is there and fits. -/
theorem checkConfigText_iff {config : Json} {key : String} {fits : String → Bool}
    {problem : String} :
    checkConfigText config key fits problem = .ok () ↔
      ∃ s, configField config key = .ok (.str s) ∧ fits s := by
  unfold checkConfigText
  constructor
  · intro accepted
    cases hread : configField config key with
    | error e =>
      rw [hread] at accepted
      cases accepted
    | ok v =>
      rw [hread] at accepted
      cases v with
      | str s =>
        change (if fits s then .ok () else .error _ : Except Failure Unit) = .ok () at accepted
        split at accepted
        · next fit => exact ⟨s, rfl, fit⟩
        · cases accepted
      | _ => cases accepted
  · rintro ⟨s, hread, fit⟩
    rw [hread]
    exact if_pos fit

namespace Channel

variable {c : Channel}

/-- **Which channels for mail are accepted.**  The name must be valid, and the configuration must
have an address, where one line feed behind it does not count.  What is accepted is one line, and
can be written as the header line of the recipient. -/
theorem validate_email_iff (type : ChannelType.ofJson c.type = .ok .email) :
    c.validate = .ok () ↔ checkName c.name = .ok () ∧
      ∃ fields s address, c.config = .obj fields ∧ Json.field? fields "email" = some (.str s) ∧
        IsAddress address ∧ (s.toList = address ∨ s.toList = address ++ ['\n']) ∧
        Text.splitBreaks s.toList = [address] ∧ Header.write "To" s.toList = .ok () := by
  have known : ChannelType.ofJson? c.type = some .email := by
    rw [ChannelType.ofJson] at type
    split at type
    · next t ht => rw [ht, Except.ok.inj type]
    · cases type
  have hvalidate : c.validate = checkName c.name >>= fun _ =>
      checkConfigText c.config "email" (fun s => isEmail s.toList)
        "must include a valid email address" := by
    rw [validate, known]
  rw [hvalidate]
  cases checkName c.name with
  | error e => exact iff_of_false nofun fun h => nomatch h.1
  | ok _ =>
    change checkConfigText .. = .ok () ↔ _
    rw [checkConfigText_iff]
    constructor
    · rintro ⟨s, hread, accepted⟩
      obtain ⟨fields, config, hfield⟩ := configField_eq_text_iff.mp hread
      obtain ⟨address, isAddress, text⟩ := isEmail_iff.mp accepted
      have line := isAddress.splitBreaks text
      exact ⟨rfl, fields, s, address, config, hfield, isAddress, text, line,
        Header.write_of_splitBreaks line "To"⟩
    · rintro ⟨-, fields, s, address, config, hfield, isAddress, text, -⟩
      exact ⟨s, configField_eq_text_iff.mpr ⟨fields, config, hfield⟩,
        isEmail_iff.mpr ⟨address, isAddress, text⟩⟩

namespace Sample

/-- A channel for mail with a line feed behind its address. -/
def operators : Channel where
  type := .str "email"
  name := .str "operators"
  config := .obj [("email", .str "ops@example.com\n")]
  enabled := .bool true
  ownerId := .null
  id := none

end Sample

/-- A channel with a line feed behind its address is accepted as one with the address. -/
theorem validate_email_of_operators :
    ChannelType.ofJson Sample.operators.type = .ok .email ∧ Sample.operators.validate = .ok () ∧
      checkName Sample.operators.name = .ok () ∧
      ∃ fields s address, Sample.operators.config = .obj fields ∧
        Json.field? fields "email" = some (.str s) ∧ IsAddress address ∧
        (s.toList = address ∨ s.toList = address ++ ['\n']) ∧
        Text.splitBreaks s.toList = [address] ∧ Header.write "To" s.toList = .ok () := by
  have type : ChannelType.ofJson Sample.operators.type = .ok .email := rfl
  have accepted : Sample.operators.validate = .ok () := rfl
  exact ⟨type, accepted, (validate_email_iff type).mp accepted⟩

/-- Not every channel for mail that is accepted has an address: a line feed may stand behind it. -/
theorem line_feed_is_accepted :
    ¬∀ c : Channel, ChannelType.ofJson c.type = .ok .email → c.validate = .ok () →
      ∃ fields s, c.config = .obj fields ∧ Json.field? fields "email" = some (.str s) ∧
        IsAddress s.toList := by
  intro clean
  obtain ⟨_, s, ⟨⟩, hfield, isAddress⟩ :=
    clean Sample.operators rfl rfl
  obtain rfl : "ops@example.com\n" = s := Json.str.inj (Option.some.inj hfield)
  exact absurd (isAddress.clean '\n' (by decide)).1 (by decide)

end Channel

end LogAlert
