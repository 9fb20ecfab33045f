import LogAlert.Json.Reader
import LogAlert.Json.Writer

/-!
# Written texts are read back

A text in a JSON document is written in ASCII, character by character, and is read back from its
code units.

## Main definitions

* `Json.units` : the code units of a character.

## Main results

* `Json.Reader.textUnits_writeChar` : one written character is read as its code units.
* `Json.Reader.joinUnits_units` : the code units of a text make up the text.
* `Json.Reader.readText_writeText` : a written text is read back.
-/

namespace LogAlert.Json

/-- The code units of a character: one, or a pair beyond the first 65536 code points. -/
def units (c : Char) : List Nat :=
  if c.toNat < 0x10000 then [c.toNat]
  else [0xd800 + (c.toNat - 0x10000) / 0x400, 0xdc00 + (c.toNat - 0x10000) % 0x400]

namespace Reader

variable {rest : List Char}

/-! ### Escapes -/

theorem hexValue?_lowerHexDigit {k : Nat} (h : k < 16) :
    hexValue? (Text.lowerHexDigit k) = some k := by
  have hall : ∀ k < 16, hexValue? (Text.lowerHexDigit k) = some k := by decide
  exact hall k h

/-- Four hexadecimal digits are read back. -/
theorem unitValue?_hexDigits {n : Nat} (h : n < 65536) :
    ∃ a b c d, Text.hexDigits 4 n = [a, b, c, d] ∧ unitValue? a b c d = some n := by
  refine ⟨_, _, _, _, rfl, ?_⟩
  rw [unitValue?, hexValue?_lowerHexDigit (Nat.mod_lt _ (by decide)),
    hexValue?_lowerHexDigit (Nat.mod_lt _ (by decide)),
    hexValue?_lowerHexDigit (Nat.mod_lt _ (by decide)),
    hexValue?_lowerHexDigit (Nat.mod_lt _ (by decide))]
  refine congrArg some ?_
  omega

/-- What is read of a text after some of its units. -/
def prepend (us : List Nat) (r : Except Fault (Reading (List Nat))) :
    Except Fault (Reading (List Nat)) :=
  r.map fun r => (us ++ r.1, r.2)

theorem prepend_append (us vs : List Nat) (r : Except Fault (Reading (List Nat))) :
    prepend us (prepend vs r) = prepend (us ++ vs) r := by
  cases r with
  | error e => rfl
  | ok r => exact congrArg (fun w => Except.ok (w, r.2)) (List.append_assoc us vs r.1).symm

theorem textUnits_unitEscape (opening : Nat) {n : Nat} (h : n < 65536) (hne : rest ≠ []) :
    textUnits opening (unitEscape n ++ rest) = prepend [n] (textUnits opening rest) := by
  obtain ⟨a, b, c, d, hdigits, hvalue⟩ := unitValue?_hexDigits h
  obtain ⟨x, rest, rfl⟩ := List.exists_cons_of_ne_nil hne
  rw [unitEscape, hdigits]
  change textUnits opening ('\\' :: 'u' :: a :: b :: c :: d :: x :: rest) = _
  rw [textUnits, hvalue]
  cases textUnits opening (x :: rest) <;> rfl

theorem textUnits_escape (opening : Nat) {e : Char} {n : Nat} (h : escapeValue? e = some n)
    (hne : e ≠ 'u') :
    textUnits opening ('\\' :: e :: rest) = prepend [n] (textUnits opening rest) := by
  rw [textUnits, h]
  · cases textUnits opening rest <;> rfl
  · exact hne

theorem textUnits_plain (opening : Nat) {c : Char} (hquote : c ≠ '"') (hescape : c ≠ '\\')
    (h : 32 ≤ c.toNat) :
    textUnits opening (c :: rest) = prepend [c.toNat] (textUnits opening rest) := by
  rw [textUnits, if_neg (Nat.not_lt.mpr h)]
  · cases textUnits opening rest <;> rfl
  · exact hquote
  · exact fun h => absurd h hescape
  · exact fun _ h => absurd h hescape
  · exact fun _ _ h => absurd h hescape

/-! ### Characters -/

theorem toNat_lt (c : Char) : c.toNat < 0x110000 := by
  rcases c.valid with h | ⟨-, h⟩
  · exact Nat.lt_trans h (by decide)
  · exact h

/-- A character above the first plane is written as two code units. -/
theorem textUnits_pair (opening : Nat) {c : Char} (h : ¬c.toNat < 0x10000) (hne : rest ≠ []) :
    textUnits opening (unitEscape (0xd800 + (c.toNat - 0x10000) / 0x400) ++
        unitEscape (0xdc00 + (c.toNat - 0x10000) % 0x400) ++ rest) =
      prepend (units c) (textUnits opening rest) := by
  have hlt := toNat_lt c
  have hne' : unitEscape (0xdc00 + (c.toNat - 0x10000) % 0x400) ++ rest ≠ [] :=
    List.append_ne_nil_of_right_ne_nil _ hne
  rw [List.append_assoc, textUnits_unitEscape opening (by omega) hne',
    textUnits_unitEscape opening (by omega) hne, prepend_append, units, if_neg h]
  rfl

/-- One written character is read as its code units. -/
theorem textUnits_writeChar (opening : Nat) (c : Char) (hne : rest ≠ []) :
    textUnits opening (writeChar c ++ rest) = prepend (units c) (textUnits opening rest) := by
  have single (h : c.toNat < 0x10000) : units c = [c.toNat] := if_pos h
  have escaped {e : Char} (hvalue : escapeValue? e = some c.toNat) (hu : e ≠ 'u')
      (h : c.toNat < 0x10000) :
      textUnits opening (['\\', e] ++ rest) = prepend (units c) (textUnits opening rest) := by
    rw [single h]
    exact textUnits_escape opening hvalue hu
  rw [writeChar]
  split
  · next h =>
    rw [Bool.or_eq_true, beq_iff_eq, beq_iff_eq] at h
    rcases h with rfl | rfl
    · exact escaped (by decide) (by decide) (by decide)
    · exact escaped (by decide) (by decide) (by decide)
  next hmark =>
  split
  · next h =>
    obtain rfl := eq_of_beq h
    exact escaped (by decide) (by decide) (by decide)
  split
  · next h =>
    obtain rfl := eq_of_beq h
    exact escaped (by decide) (by decide) (by decide)
  split
  · next h =>
    obtain rfl := eq_of_beq h
    exact escaped (by decide) (by decide) (by decide)
  split
  · next h =>
    have hc : c.toNat = 8 := eq_of_beq h
    exact escaped (by rw [hc]; decide) (by decide) (by omega)
  split
  · next h =>
    have hc : c.toNat = 12 := eq_of_beq h
    exact escaped (by rw [hc]; decide) (by decide) (by omega)
  split
  · next h =>
    rw [Bool.and_eq_true, decide_eq_true_eq, decide_eq_true_eq] at h
    rw [Bool.or_eq_true, beq_iff_eq, beq_iff_eq, not_or] at hmark
    rw [single (by omega)]
    exact textUnits_plain opening hmark.1 hmark.2 h.1
  split
  · next h =>
    rw [single h]
    exact textUnits_unitEscape opening h hne
  · next h => exact textUnits_pair opening h hne

theorem textUnits_writeChars (opening : Nat) (cs rest : List Char) :
    textUnits opening (cs.flatMap writeChar ++ '"' :: rest) = .ok (cs.flatMap units, rest) := by
  induction cs with
  | nil => rfl
  | cons c cs ih =>
    have hne : cs.flatMap writeChar ++ '"' :: rest ≠ [] :=
      List.append_ne_nil_of_right_ne_nil _ (List.cons_ne_nil _ _)
    rw [List.flatMap_cons, List.append_assoc, textUnits_writeChar opening c hne, ih]
    rfl

/-- A character is no half of a pair. -/
theorem not_half (c : Char) : isHighHalf c.toNat = false ∧ isLowHalf c.toNat = false := by
  have hvalid : c.toNat < 0xd800 ∨ 0xdfff < c.toNat ∧ c.toNat < 0x110000 := c.valid
  simp only [isHighHalf, isLowHalf, Bool.and_eq_false_iff, decide_eq_false_iff_not]
  omega

theorem charOf_toNat (c : Char) : charOf c.toNat = c := by
  obtain ⟨high, low⟩ := not_half c
  rw [charOf, high, low]
  exact Char.ofNat_toNat c

theorem joinUnits_cons (c : Char) (us : List Nat) :
    joinUnits (c.toNat :: us) = c :: joinUnits us := by
  cases us with
  | nil => exact congrArg (fun d => [d]) (charOf_toNat c)
  | cons u us =>
    rw [joinUnits, (not_half c).1, Bool.false_and, if_neg Bool.false_ne_true, charOf_toNat]

/-- **The code units of a text** make up the text. -/
theorem joinUnits_units (cs : List Char) : joinUnits (cs.flatMap units) = cs := by
  induction cs with
  | nil => rfl
  | cons c cs ih =>
    rw [List.flatMap_cons, units]
    split
    · rw [List.singleton_append, joinUnits_cons, ih]
    · next h =>
      have hlt := toNat_lt c
      have high : isHighHalf (0xd800 + (c.toNat - 0x10000) / 0x400) = true := by
        rw [isHighHalf, Bool.and_eq_true, decide_eq_true_eq, decide_eq_true_eq]
        omega
      have low : isLowHalf (0xdc00 + (c.toNat - 0x10000) % 0x400) = true := by
        rw [isLowHalf, Bool.and_eq_true, decide_eq_true_eq, decide_eq_true_eq]
        omega
      have hcode : 0x10000 + (0xd800 + (c.toNat - 0x10000) / 0x400 - 0xd800) * 0x400 +
          (0xdc00 + (c.toNat - 0x10000) % 0x400 - 0xdc00) = c.toNat := by omega
      rw [List.cons_append, List.singleton_append, joinUnits, high, low, Bool.and_self, if_pos rfl,
        ih, hcode, Char.ofNat_toNat]

/-- **A written text is read back**, whatever follows it. -/
theorem readText_writeText (s : String) (rest : List Char) :
    ∃ cs, writeText s ++ rest = '"' :: cs ∧ readText cs = .ok (s, rest) := by
  refine ⟨s.toList.flatMap writeChar ++ '"' :: rest, ?_, ?_⟩
  · rw [writeText, List.cons_append, List.append_assoc]
    rfl
  · rw [readText, textUnits_writeChars]
    change Except.ok (String.ofList (joinUnits _), rest) = _
    rw [joinUnits_units, String.ofList_toList]

end Reader

end LogAlert.Json
