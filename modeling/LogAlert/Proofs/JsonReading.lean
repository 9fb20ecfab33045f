import LogAlert.Alert.Codec
import LogAlert.Proofs.Digits
import LogAlert.Proofs.JsonText
import LogAlert.Proofs.Table
import Mathlib.Data.List.TakeWhile

/-!
# Written values are read back

A value is read back from its document if it is made of null, truth values, integers that are not
too long, texts, arrays, and objects with distinct keys.

## Main definitions

* `Json.isStorable` : the values that are read back.

## Main results

* `Json.Reader.readNumber_intText` : integers.
* `Json.Reader.readValue_writeChars` : values with any text after them.
* `Document.read_write` : whole documents.
-/

namespace LogAlert

/-- Two steps that succeed do so one after the other. -/
theorem exists_of_bind_ok {ε α β : Type} {x : Except ε α} {f : α → Except ε β} {b : β}
    (h : (x >>= f) = .ok b) : ∃ a, x = .ok a ∧ f a = .ok b := by
  cases x with
  | error e => cases h
  | ok a => exact ⟨a, rfl, h⟩

namespace Json

mutual

/-- Whether a value is read back from its document.  Objects have each key once, and integers have
no more digits than are read. -/
def isStorable : Json → Bool
  | .null | .bool _ | .str _ => true
  | .int n => Number.fits n
  | .float _ => false
  | .arr items => areStorable items
  | .obj fields => decide (Table.keys fields).Nodup && haveStorable fields

/-- Whether all items of an array are read back. -/
def areStorable : List Json → Bool
  | [] => true
  | x :: xs => isStorable x && areStorable xs

/-- Whether the values of all fields of an object are read back. -/
def haveStorable : Fields → Bool
  | [] => true
  | (_, x) :: fs => isStorable x && haveStorable fs

end

theorem areStorable_iff {items : List Json} :
    areStorable items = true ↔ ∀ x ∈ items, x.isStorable = true := by
  induction items with
  | nil => exact iff_of_true rfl (List.forall_mem_nil _)
  | cons x xs ih => rw [areStorable, Bool.and_eq_true, ih, List.forall_mem_cons]

theorem haveStorable_iff {fields : Fields} :
    haveStorable fields = true ↔ ∀ f ∈ fields, f.2.isStorable = true := by
  induction fields with
  | nil => exact iff_of_true rfl (List.forall_mem_nil _)
  | cons f fs ih => rw [haveStorable, Bool.and_eq_true, ih, List.forall_mem_cons]

/-- The integers that are read back are those of at most 4300 digits. -/
theorem isStorable_int_iff {n : Int} :
    (Json.int n).isStorable = true ↔ n.natAbs < 10 ^ Number.digitLimit := by
  rw [isStorable, Number.fits_iff]

theorem isStorable_int_of_le {m n : Int} (hle : m.natAbs ≤ n.natAbs)
    (h : (Json.int n).isStorable) : (Json.int m).isStorable :=
  isStorable_int_iff.mpr (Nat.lt_of_le_of_lt hle (isStorable_int_iff.mp h))

namespace Reader

/-! ### Integers -/

/-- Whether a text does not go on with a number. -/
def Closes (rest : List Char) : Prop :=
  ∀ c, rest.head? = some c → c = ',' ∨ c = ']' ∨ c = '\x7d'

variable {rest : List Char}

theorem closes_cons {c : Char} (h : c = ',' ∨ c = ']' ∨ c = '\x7d') (rest : List Char) :
    Closes (c :: rest) := by
  intro d hd
  obtain rfl := Option.some.inj hd
  exact h

theorem closes_nil : Closes [] := fun _ h => nomatch h

theorem Closes.not_digit (h : Closes rest) : ∀ c, rest.head? = some c → isDigit c = false := by
  intro c hc
  rcases h c hc with rfl | rfl | rfl <;> rfl

theorem takeWhile_digits {ds : List Char} (digits : ∀ c ∈ ds, isDigit c) (closes : Closes rest) :
    (ds ++ rest).takeWhile isDigit = ds ∧ (ds ++ rest).dropWhile isDigit = rest := by
  rw [List.takeWhile_append_of_pos digits, List.dropWhile_append_of_pos digits]
  cases rest with
  | nil => exact ⟨List.append_nil ds, rfl⟩
  | cons c rest =>
    have hc : ¬isDigit c = true := by
      rw [closes.not_digit c rfl]
      exact Bool.false_ne_true
    rw [List.takeWhile_cons_of_neg hc, List.dropWhile_cons_of_neg hc, List.append_nil]
    exact ⟨rfl, rfl⟩

/-- The digits of a number are its whole part. -/
theorem wholeDigits_toDigits (n : Nat) (closes : Closes rest) :
    wholeDigits (Nat.toDigits 10 n ++ rest) = (Nat.toDigits 10 n, rest) := by
  have digits : ∀ c ∈ Nat.toDigits 10 n, isDigit c := fun c hc =>
    Nat.isDigit_of_mem_toDigits (by decide) (by decide) hc
  obtain ⟨htake, hdrop⟩ := takeWhile_digits digits closes
  by_cases hn : n = 0
  · subst hn
    rw [Nat.toDigits_zero]
    rfl
  · unfold wholeDigits
    split
    · next cs heq =>
      obtain ⟨c, ds, hcons, -⟩ := toDigits_cons n
      have hhead := head?_toDigits (Nat.pos_of_ne_zero hn)
      rw [hcons] at heq hhead
      obtain ⟨rfl, -⟩ := List.cons.inj heq
      exact absurd rfl hhead
    · rw [htake, hdrop]

theorem fractionDigits_of_closes (closes : Closes rest) : fractionDigits rest = none := by
  unfold fractionDigits
  split
  · next c rest =>
    rcases closes '.' rfl with h | h | h <;> exact absurd h (by decide)
  · rfl

theorem exponentDigits_of_closes (closes : Closes rest) : exponentDigits rest = none := by
  cases rest with
  | nil => rfl
  | cons c rest =>
    have hc : (c == 'e' || c == 'E') = false := by
      rcases closes c rfl with rfl | rfl | rfl <;> rfl
    rw [exponentDigits, hc, if_neg Bool.false_ne_true]

theorem digitsValue_toDigits (n : Nat) : Number.digitsValue (Nat.toDigits 10 n) = n := by
  rw [digitsValue_eq fun c hc => Nat.isDigit_of_mem_toDigits (by decide) (by decide) hc,
    Nat.ofDigitChars_ten_toDigits]

/-- An integer is read back unless it is too long. -/
theorem readNumber_intText (n : Int) (closes : Closes rest) :
    readNumber (intText n ++ rest) =
      if Number.digitLimit < (Nat.toDigits 10 n.natAbs).length then
        fail (.tooManyDigits (Nat.toDigits 10 n.natAbs).length) (intText n ++ rest)
      else .ok (.int n, rest) := by
  have hempty : (Nat.toDigits 10 n.natAbs).isEmpty = false :=
    List.isEmpty_eq_false_iff.mpr Nat.toDigits_ne_nil
  unfold readNumber
  split
  next sign body heq =>
  have hsplit : (sign, body) = (decide (n < 0), Nat.toDigits 10 n.natAbs ++ rest) := by
    refine heq.symm.trans ?_
    clear heq
    rw [intText]
    by_cases negative : n < 0
    · rw [if_pos negative, decide_eq_true negative]
      rfl
    · rw [if_neg negative, decide_eq_false negative, List.nil_append]
      obtain ⟨c, ds, hcons, digits⟩ := toDigits_cons n.natAbs
      rw [hcons, List.cons_append]
      split
      · next heq =>
        obtain ⟨rfl, -⟩ := List.cons.inj heq
        exact absurd (digits _ List.mem_cons_self) (by decide)
      · rfl
  obtain ⟨rfl, rfl⟩ := Prod.mk.inj hsplit
  rw [wholeDigits_toDigits n.natAbs closes]
  dsimp only
  simp only [hempty, fractionDigits_of_closes closes, Option.getD_none,
    exponentDigits_of_closes closes, Bool.false_eq_true, if_false, List.isEmpty_nil,
    Option.isNone_none, Bool.and_self, if_true, digitsValue_toDigits, signed_natAbs]

/-! ### Values -/

theorem head_intText (n : Int) : ∃ c cs, intText n = c :: cs ∧ (c = '-' ∨ c.isDigit) := by
  rw [intText]
  by_cases negative : n < 0
  · rw [if_pos negative]
    exact ⟨_, _, rfl, .inl rfl⟩
  · rw [if_neg negative]
    obtain ⟨c, ds, hcons, digits⟩ := toDigits_cons n.natAbs
    exact ⟨c, ds, hcons, .inr (digits c List.mem_cons_self)⟩

/-- The sign or the first digit of a number is no other sign. -/
theorem ne_of_head {c d : Char} (h : c = '-' ∨ c.isDigit) (hd : d.isDigit = false) (hne : d ≠ '-') :
    c ≠ d := by
  rcases h with rfl | h
  · exact hne.symm
  · exact ne_of_isDigit h hd

/-- The first character of an integer is no blank, no closing sign, and no mark of the order of
octets. -/
theorem head_writeChars_int (n : Int) :
    ∃ c cs, writeChars (.int n) = c :: cs ∧ isSpace c = false ∧ c ≠ ']' ∧ c ≠ '\ufeff' := by
  obtain ⟨c, cs, hcons, hc⟩ := head_intText n
  have hne {d : Char} (hd : d.isDigit = false) (hminus : d ≠ '-') : c ≠ d :=
    ne_of_head hc hd hminus
  refine ⟨c, cs, hcons, ?_, hne (by decide) (by decide), hne (by decide) (by decide)⟩
  simp only [isSpace, Bool.or_eq_false_iff, beq_eq_false_iff_ne]
  exact ⟨⟨⟨hne (by decide) (by decide), hne (by decide) (by decide)⟩,
    hne (by decide) (by decide)⟩, hne (by decide) (by decide)⟩

/-- The first character of a written value is no blank, no closing sign, and no mark of the order
of octets. -/
theorem head_writeChars {v : Json} (h : v.isStorable) :
    ∃ c cs, writeChars v = c :: cs ∧ isSpace c = false ∧ c ≠ ']' ∧ c ≠ '\ufeff' := by
  cases v with
  | null => exact ⟨_, _, rfl, by decide⟩
  | bool b => cases b <;> exact ⟨_, _, rfl, by decide⟩
  | str s => exact ⟨_, _, rfl, by decide⟩
  | arr items => exact ⟨_, _, rfl, by decide⟩
  | obj fields => exact ⟨_, _, rfl, by decide⟩
  | float x => cases h
  | int n => exact head_writeChars_int n

theorem skipSpace_cons {c : Char} (h : isSpace c = false) (cs : List Char) :
    skipSpace (c :: cs) = c :: cs := by
  rw [skipSpace, List.dropWhile_cons_of_neg (by rw [h]; exact Bool.false_ne_true)]

theorem skipSpace_writeChars {v : Json} (h : v.isStorable) (rest : List Char) :
    skipSpace (' ' :: (writeChars v ++ rest)) = writeChars v ++ rest := by
  obtain ⟨c, cs, hcons, hspace, -⟩ := head_writeChars h
  rw [skipSpace, List.dropWhile_cons_of_pos (by decide), hcons]
  exact skipSpace_cons hspace _

/-- A value that is no text, array or object is read as a word or a number. -/
theorem readValue_scalar {c : Char} {cs : List Char} {fuel : Nat} (pos : 0 < fuel)
    (hne : c ≠ '"' ∧ c ≠ '[' ∧ c ≠ '\x7b') : readValue fuel (c :: cs) = readScalar (c :: cs) := by
  obtain ⟨fuel, rfl⟩ := Nat.exists_eq_succ_of_ne_zero (Nat.ne_of_gt pos)
  rw [readValue]
  · exact fun rest h => absurd (List.cons.inj h).1 hne.1
  · exact fun rest h => absurd (List.cons.inj h).1 hne.2.1
  · exact fun rest h => absurd (List.cons.inj h).1 hne.2.2

theorem readScalar_intText (n : Int) (rest : List Char) :
    readScalar (intText n ++ rest) = readNumber (intText n ++ rest) := by
  obtain ⟨c, ds, hcons, digits⟩ := toDigits_cons n.natAbs
  have hne {d : Char} (hd : d.isDigit = false) : c ≠ d :=
    ne_of_isDigit (digits c List.mem_cons_self) hd
  rw [intText, hcons]
  by_cases negative : n < 0
  · rw [if_pos negative]
    -- no digit is the first letter of infinity
    have hword : "-Infinity".toList.isPrefixOf ('-' :: c :: (ds ++ rest)) = false := by
      have hc : ('I' == c) = false := beq_false_of_ne (Ne.symm (hne (by decide)))
      have hletters : "-Infinity".toList = '-' :: 'I' :: "nfinity".toList := by decide
      rw [hletters, List.isPrefixOf_cons_cons, List.isPrefixOf_cons_cons, hc, Bool.false_and,
        Bool.and_false]
    change readScalar ('-' :: c :: (ds ++ rest)) = _
    rw [readScalar]
    dsimp only
    rw [hword, if_neg Bool.false_ne_true]
    rfl
  · rw [if_neg negative]
    change readScalar (c :: (ds ++ rest)) = _
    unfold readScalar
    split
    · next heq => exact absurd (List.cons.inj heq).1 (hne (by decide))
    · next heq => exact absurd (List.cons.inj heq).1 (hne (by decide))
    · next heq => exact absurd (List.cons.inj heq).1 (hne (by decide))
    · next heq => exact absurd (List.cons.inj heq).1 (hne (by decide))
    · next heq => exact absurd (List.cons.inj heq).1 (hne (by decide))
    · next heq => exact absurd (List.cons.inj heq).1 (hne (by decide))
    · rfl

/-- What follows a value in an array or an object closes a number. -/
theorem closes_comma (rest : List Char) : Closes (',' :: rest) := closes_cons (.inl rfl) rest

theorem closes_bracket (rest : List Char) : Closes (']' :: rest) :=
  closes_cons (.inr (.inl rfl)) rest

theorem closes_brace (rest : List Char) : Closes ('\x7d' :: rest) :=
  closes_cons (.inr (.inr rfl)) rest

theorem readValue_eq_readNumber {fuel : Nat} (pos : 0 < fuel) (n : Int) (rest : List Char) :
    readValue fuel (intText n ++ rest) = readNumber (intText n ++ rest) := by
  obtain ⟨c, cs, hcons, hc⟩ := head_intText n
  rw [← readScalar_intText, hcons, List.cons_append]
  exact readValue_scalar pos ⟨ne_of_head hc (by decide) (by decide),
    ne_of_head hc (by decide) (by decide), ne_of_head hc (by decide) (by decide)⟩

theorem readValue_intText {fuel : Nat} (pos : 0 < fuel) {n : Int}
    (h : (Nat.toDigits 10 n.natAbs).length ≤ Number.digitLimit) (closes : Closes rest) :
    readValue fuel (intText n ++ rest) = .ok (.int n, rest) := by
  rw [readValue_eq_readNumber pos, readNumber_intText n closes, if_neg (Nat.not_lt.mpr h)]

/-- An integer that is read has no more digits than are read. -/
theorem readValue_intText_ok {fuel : Nat} {n : Int} (closes : Closes rest) {r : Reading Json}
    (h : readValue fuel (intText n ++ rest) = .ok r) : (Json.int n).isStorable ∧ r.2 = rest := by
  cases fuel with
  | zero => cases h
  | succ fuel =>
    rw [readValue_eq_readNumber (Nat.succ_pos fuel), readNumber_intText n closes] at h
    split at h
    · cases h
    · next short =>
      cases h
      exact ⟨decide_eq_true (Nat.not_lt.mp short), rfl⟩

mutual

/-- **A written value is read back**, whatever sign follows it. -/
theorem readValue_writeChars (v : Json) (fuel : Nat) (rest : List Char) (h : v.isStorable)
    (enough : (writeChars v).length < fuel) (closes : Closes rest) :
    readValue fuel (writeChars v ++ rest) = .ok (v, rest) := by
  match v with
  | .null => exact readValue_scalar (Nat.zero_lt_of_lt enough) (by decide)
  | .bool true => exact readValue_scalar (Nat.zero_lt_of_lt enough) (by decide)
  | .bool false => exact readValue_scalar (Nat.zero_lt_of_lt enough) (by decide)
  | .int n =>
    rw [writeChars]
    exact readValue_intText (Nat.zero_lt_of_lt enough) (of_decide_eq_true h) closes
  | .float x => cases h
  | .str s =>
    obtain ⟨fuel, rfl⟩ := Nat.exists_eq_succ_of_ne_zero (Nat.ne_of_gt (Nat.zero_lt_of_lt enough))
    obtain ⟨cs, hcs, hread⟩ := readText_writeText s rest
    rw [writeChars, hcs, readValue, hread]
    rfl
  | .arr items =>
    obtain ⟨fuel, rfl⟩ := Nat.exists_eq_succ_of_ne_zero (Nat.ne_of_gt (Nat.zero_lt_of_lt enough))
    rw [writeChars, List.length_cons, List.length_append, List.length_singleton] at enough
    rw [writeChars, List.cons_append, List.append_assoc, List.singleton_append]
    match items with
    | [] => rfl
    | x :: xs =>
      have hread := readItems_writeItems (x :: xs) fuel rest h (List.cons_ne_nil _ _) (by omega)
      have hx : x.isStorable := (Bool.and_eq_true_iff.mp h).1
      obtain ⟨c, cs, hcons, hspace, hbracket, -⟩ := head_writeChars hx
      obtain ⟨more, hmore⟩ : ∃ more, writeItems (x :: xs) ++ ']' :: rest = c :: more := by
        rw [writeItems, hcons]
        exact ⟨_, rfl⟩
      rw [hmore] at hread ⊢
      rw [readValue, skipSpace_cons hspace]
      split
      · next heq => exact absurd (List.cons.inj heq).1 hbracket
      · rw [hread]
        rfl
  | .obj fields =>
    obtain ⟨fuel, rfl⟩ := Nat.exists_eq_succ_of_ne_zero (Nat.ne_of_gt (Nat.zero_lt_of_lt enough))
    rw [writeChars, List.length_cons, List.length_append, List.length_singleton] at enough
    rw [writeChars, List.cons_append, List.append_assoc, List.singleton_append]
    obtain ⟨nodup, hfields⟩ := Bool.and_eq_true_iff.mp h
    match fields with
    | [] => rfl
    | (key, x) :: fs =>
      have hread := readFields_writeFields ((key, x) :: fs) fuel [] rest hfields
        (List.cons_ne_nil _ _) (of_decide_eq_true nodup) (by omega)
      obtain ⟨more, hmore⟩ : ∃ more, writeFields ((key, x) :: fs) ++ '\x7d' :: rest =
          '"' :: more := ⟨_, rfl⟩
      rw [hmore] at hread ⊢
      rw [readValue, skipSpace_cons (by decide)]
      split
      · next heq => exact absurd (List.cons.inj heq).1 (by decide)
      · rw [hread]
        rfl

/-- The written items of an array are read back. -/
theorem readItems_writeItems (items : List Json) (fuel : Nat) (rest : List Char)
    (h : areStorable items) (hne : items ≠ []) (enough : (writeItems items).length + 1 < fuel) :
    readItems fuel (writeItems items ++ ']' :: rest) = .ok (items, rest) := by
  obtain ⟨fuel, rfl⟩ := Nat.exists_eq_succ_of_ne_zero (Nat.ne_of_gt (Nat.zero_lt_of_lt enough))
  match items with
  | [] => exact absurd rfl hne
  | x :: xs =>
    obtain ⟨hx, hxs⟩ := Bool.and_eq_true_iff.mp h
    rw [writeItems, List.length_append] at enough
    rw [writeItems, List.append_assoc]
    match xs with
    | [] =>
      have hread := readValue_writeChars x fuel (']' :: rest) hx (by omega) (closes_bracket rest)
      rw [List.isEmpty_nil, if_pos rfl, List.nil_append, readItems, hread]
      rfl
    | y :: ys =>
      rw [List.isEmpty_cons, if_neg Bool.false_ne_true, List.length_cons,
        List.length_cons] at enough
      have hread := readValue_writeChars x fuel
        (',' :: ' ' :: (writeItems (y :: ys) ++ ']' :: rest)) hx (by omega) (closes_comma _)
      have htail := readItems_writeItems (y :: ys) fuel rest hxs (List.cons_ne_nil _ _) (by omega)
      have hskip : skipSpace (' ' :: (writeItems (y :: ys) ++ ']' :: rest)) =
          writeItems (y :: ys) ++ ']' :: rest := by
        rw [writeItems, List.append_assoc]
        exact skipSpace_writeChars (Bool.and_eq_true_iff.mp hxs).1 _
      rw [List.isEmpty_cons, if_neg Bool.false_ne_true, List.cons_append, List.cons_append,
        readItems, hread]
      change (do
        let (items, rest) ←
          readItems fuel (skipSpace (' ' :: (writeItems (y :: ys) ++ ']' :: rest)))
        .ok (x :: items, rest)) = _
      rw [hskip, htail]
      rfl

/-- The written fields of an object are read back after those that were read before. -/
theorem readFields_writeFields (fields : Fields) (fuel : Nat) (read : Fields) (rest : List Char)
    (h : haveStorable fields) (hne : fields ≠ [])
    (nodup : (Table.keys (read ++ fields)).Nodup)
    (enough : (writeFields fields).length + 1 < fuel) :
    readFields fuel read (writeFields fields ++ '\x7d' :: rest) = .ok (read ++ fields, rest) := by
  obtain ⟨fuel, rfl⟩ := Nat.exists_eq_succ_of_ne_zero (Nat.ne_of_gt (Nat.zero_lt_of_lt enough))
  match fields with
  | [] => exact absurd rfl hne
  | (key, x) :: fs =>
    obtain ⟨hx, hfs⟩ := Bool.and_eq_true_iff.mp h
    have hfresh : key ∉ Table.keys read := fun hmem => by
      rw [Table.keys, List.map_append, List.nodup_append] at nodup
      exact nodup.2.2 key hmem key List.mem_cons_self rfl
    have hset : setField key x read = read ++ [(key, x)] := Table.put_of_not_mem hfresh x
    have hsplit : read ++ (key, x) :: fs = (read ++ [(key, x)]) ++ fs := by
      rw [List.append_assoc, List.singleton_append]
    simp only [writeFields, List.length_append, List.length_cons] at enough
    -- the text from the value on
    have hfields (after : List Char) (hread : readValue fuel (writeChars x ++ after) =
        .ok (x, after)) :
        readFields (fuel + 1) read (writeText key ++ ':' :: ' ' :: (writeChars x ++ after)) =
          match skipSpace after with
          | '\x7d' :: rest => .ok (read ++ [(key, x)], rest)
          | ',' :: rest => readFields fuel (read ++ [(key, x)]) (skipSpace rest)
          | rest => fail .noComma rest := by
      obtain ⟨cs, hcs, htext⟩ := readText_writeText key (':' :: ' ' :: (writeChars x ++ after))
      rw [hcs, readFields, htext]
      change (do
        let (value, rest) ← readValue fuel (skipSpace (' ' :: (writeChars x ++ after)))
        _) = _
      rw [skipSpace_writeChars hx, hread, ← hset]
      rfl
    match fs with
    | [] =>
      have hread := readValue_writeChars x fuel ('\x7d' :: rest) hx (by omega) (closes_brace rest)
      rw [writeFields, List.isEmpty_nil, if_pos rfl, List.append_nil, List.append_assoc,
        List.cons_append, List.cons_append, hfields _ hread]
      rfl
    | g :: gs =>
      rw [List.isEmpty_cons, if_neg Bool.false_ne_true, List.length_cons,
        List.length_cons] at enough
      have hread := readValue_writeChars x fuel
        (',' :: ' ' :: (writeFields (g :: gs) ++ '\x7d' :: rest)) hx (by omega) (closes_comma _)
      have htail := readFields_writeFields (g :: gs) fuel (read ++ [(key, x)]) rest hfs
        (List.cons_ne_nil _ _) (hsplit ▸ nodup) (by omega)
      rw [writeFields, List.isEmpty_cons, if_neg Bool.false_ne_true, List.append_assoc,
        List.cons_append, List.cons_append, List.append_assoc, List.cons_append, List.cons_append,
        hfields _ hread, hsplit]
      exact htail

end

/-- The document of a value is read back. -/
theorem readDocument_writeChars {v : Json} (h : v.isStorable) :
    readDocument (writeChars v) = .ok v := by
  obtain ⟨c, cs, hcons, hspace, -, mark⟩ := head_writeChars h
  have hmark : (writeChars v).head? ≠ some '\ufeff' := by
    rw [hcons]
    exact fun h => mark (Option.some.inj h)
  have hskip : skipSpace (writeChars v) = writeChars v := by
    rw [hcons]
    exact skipSpace_cons hspace cs
  have hread := readValue_writeChars v ((writeChars v).length + 1) [] h (Nat.lt_succ_self _)
    closes_nil
  rw [List.append_nil] at hread
  rw [readDocument, if_neg hmark, hskip, hread]
  rfl

/-! ### Integers that are not read -/

/-- The integers of an array that is read have no more digits than are read. -/
theorem storable_of_readItems {is : List Int} {fuel : Nat} {r : Reading (List Json)}
    (h : readItems fuel (writeItems (is.map .int) ++ ']' :: rest) = .ok r) :
    ∀ i ∈ is, (Json.int i).isStorable := by
  induction is generalizing fuel r with
  | nil => exact List.forall_mem_nil _
  | cons i is ih =>
    cases fuel with
    | zero => cases h
    | succ fuel =>
      rw [List.map_cons, writeItems, List.append_assoc, readItems] at h
      obtain ⟨⟨item, rest'⟩, hread, h⟩ := exists_of_bind_ok h
      cases is with
      | nil =>
        obtain ⟨hi, -⟩ := readValue_intText_ok (closes_bracket rest) hread
        exact List.forall_mem_singleton.mpr hi
      | cons j is =>
        obtain ⟨hi, rfl⟩ := readValue_intText_ok (closes_comma _) hread
        obtain ⟨c, cs, hcons, hspace, -⟩ := head_writeChars_int j
        have hskip : skipSpace (' ' :: (writeItems ((j :: is).map .int) ++ ']' :: rest)) =
            writeItems ((j :: is).map .int) ++ ']' :: rest := by
          rw [List.map_cons, writeItems, hcons]
          exact skipSpace_cons hspace _
        obtain ⟨⟨items, rest''⟩, hitems, -⟩ := exists_of_bind_ok h
        change readItems fuel (skipSpace
          (' ' :: (writeItems ((j :: is).map .int) ++ ']' :: rest))) = _ at hitems
        rw [hskip] at hitems
        exact List.forall_mem_cons.mpr ⟨hi, ih hitems⟩

theorem storable_of_readDocument {is : List Int} {v : Json}
    (h : readDocument (writeChars (.arr (is.map .int))) = .ok v) :
    ∀ i ∈ is, (Json.int i).isStorable := by
  have mark : (writeChars (.arr (is.map .int))).head? ≠ some '\ufeff' := by
    rw [writeChars, List.head?_cons]
    decide
  rw [readDocument, if_neg mark, writeChars, skipSpace_cons (by decide)] at h
  obtain ⟨⟨v, rest⟩, hread, -⟩ := exists_of_bind_ok h
  cases is with
  | nil => exact List.forall_mem_nil _
  | cons i is =>
    obtain ⟨c, cs, hcons, hspace, hbracket, -⟩ := head_writeChars_int i
    obtain ⟨more, hmore⟩ : ∃ more, writeItems ((i :: is).map .int) ++ [']'] = c :: more := by
      rw [List.map_cons, writeItems, hcons]
      exact ⟨_, rfl⟩
    rw [hmore, readValue, skipSpace_cons hspace] at hread
    split at hread
    · next heq => exact absurd (List.cons.inj heq).1 hbracket
    · obtain ⟨⟨items, rest⟩, hitems, -⟩ := exists_of_bind_ok hread
      exact storable_of_readItems (hmore ▸ hitems)

end Reader

end Json

/-- **The document of a value is read back.** -/
theorem Document.read_write {v : Json} (h : v.isStorable) : Document.read v.write = .ok v := by
  rw [Document.read, Json.write, String.toList_ofList, Json.read,
    Json.Reader.readDocument_writeChars h]

/-- The integers of a document that is read have no more digits than are read. -/
theorem Document.storable_of_read {is : List Int} {v : Json}
    (h : Document.read (Json.arr (is.map .int)).write = .ok v) :
    ∀ i ∈ is, (Json.int i).isStorable := by
  rw [Document.read, Json.write, String.toList_ofList, Json.read] at h
  cases hread : Json.Reader.readDocument (Json.arr (is.map .int)).writeChars with
  | error fault =>
    rw [hread] at h
    cases h
  | ok v => exact Json.Reader.storable_of_readDocument hread

end LogAlert
