import LogAlert.Match.Answer
import LogAlert.Proofs.JsonReading

/-!
# Integers that are too long to be written

A value that is no text is searched as the document for it, and there is no such document if an
integer inside it has more than `Number.digitLimit` digits.  A search for a text then fails if it
comes to such a value before the text is found.  No value that was read from a document has an
integer of this length, so the entries of log files are always searched.

## Main definitions

* `Record.Fits` : no metadata value of a record has an integer that is too long.

## Main results

* `Json.Reader.readsFitting` : all integers of a value that was read are within the limit.
* `Match.textOf_error_iff`, `Match.containsText_error_iff` : what a search fails on.
* `Match.containsText_eq` : what it answers where it cannot fail.
-/

namespace LogAlert

namespace Json

theorem itemsFit_iff {items : List Json} :
    itemsFit items = true ↔ ∀ v ∈ items, v.fits = true := by
  induction items with
  | nil => exact iff_of_true rfl (List.forall_mem_nil _)
  | cons v items ih => rw [itemsFit, Bool.and_eq_true, ih, List.forall_mem_cons]

theorem fieldsFit_iff {fields : Fields} :
    fieldsFit fields = true ↔ ∀ f ∈ fields, f.2.fits = true := by
  induction fields with
  | nil => exact iff_of_true rfl (List.forall_mem_nil _)
  | cons f fields ih => rw [fieldsFit, Bool.and_eq_true, ih, List.forall_mem_cons]

theorem fieldsFit_setField {key : String} {v : Json} {fields : Fields} (hv : v.fits)
    (h : fieldsFit fields) : fieldsFit (setField key v fields) := by
  rw [fieldsFit_iff] at h ⊢
  intro f hf
  rcases Table.mem_put hf with rfl | hf
  · exact hv
  · exact h f hf

/-! ### Values that were read -/

namespace Reader

/-- The number of some digits has no more digits than these. -/
theorem fits_signed {digits : List Char} (length : digits.length ≤ Number.digitLimit)
    (negative : Bool) : Number.fits (Binary64.signed negative (Number.digitsValue digits)) := by
  have habs : (Binary64.signed negative (Number.digitsValue digits)).natAbs =
      Number.digitsValue digits := by
    rw [Binary64.signed]
    split <;> omega
  rw [Number.fits_iff, habs]
  exact (digitsValue_lt digits).trans_le (Nat.pow_le_pow_right (by decide) length)

theorem readNumber_fits {cs : List Char} {r : Reading Json} (h : readNumber cs = .ok r) :
    r.1.fits := by
  unfold readNumber at h
  split at h
  next negative body _ =>
  dsimp only at h
  split at h
  · cases h
  -- with an exponent and without
  split at h
  all_goals
    split at h
    · split at h
      · cases h
      · next short =>
        cases h
        exact fits_signed (Nat.not_lt.mp short) negative
    · cases h
      rfl

/-- A word is a value without integers. -/
private theorem fits_word {w : String} {v : Json} {cs : List Char} {r : Reading Json}
    {otherwise : Except Fault (Reading Json)}
    (h : (if w.toList.isPrefixOf cs then .ok (v, cs.drop w.length) else otherwise) = .ok r)
    (word : v.fits) (other : otherwise = .ok r → r.1.fits) : r.1.fits := by
  split at h
  · cases h
    exact word
  · exact other h

theorem readScalar_fits {cs : List Char} {r : Reading Json} (h : readScalar cs = .ok r) :
    r.1.fits := by
  have none {p : Problem} {cs : List Char} (h : fail p cs = .ok r) : r.1.fits := nomatch h
  unfold readScalar at h
  dsimp only at h
  split at h
  · exact fits_word h rfl none
  · exact fits_word h rfl none
  · exact fits_word h rfl none
  · exact fits_word h rfl none
  · exact fits_word h rfl none
  · exact fits_word h rfl readNumber_fits
  · exact readNumber_fits h

/-- With so much fuel, all integers of what is read are within the limit. -/
structure ReadsFitting (fuel : Nat) : Prop where
  value : ∀ {cs r}, readValue fuel cs = .ok r → r.1.fits
  items : ∀ {cs r}, readItems fuel cs = .ok r → itemsFit r.1
  fields : ∀ {read cs r}, fieldsFit read → readFields fuel read cs = .ok r → fieldsFit r.1

namespace ReadsFitting

variable {fuel : Nat} {cs : List Char}

theorem value_succ (ih : ReadsFitting fuel) {r : Reading Json}
    (h : readValue (fuel + 1) cs = .ok r) : r.1.fits := by
  rw [readValue.eq_def] at h
  dsimp only at h
  split at h
  · obtain ⟨_, -, h⟩ := exists_of_bind_ok h
    cases h
    rfl
  · split at h
    · cases h
      rfl
    · obtain ⟨_, hitems, h⟩ := exists_of_bind_ok h
      cases h
      exact ih.items hitems
  · split at h
    · cases h
      rfl
    · obtain ⟨_, hfields, h⟩ := exists_of_bind_ok h
      cases h
      exact ih.fields rfl hfields
  · exact readScalar_fits h

theorem items_succ (ih : ReadsFitting fuel) {r : Reading (List Json)}
    (h : readItems (fuel + 1) cs = .ok r) : itemsFit r.1 := by
  rw [readItems.eq_def] at h
  dsimp only at h
  obtain ⟨⟨item, rest⟩, hitem, h⟩ := exists_of_bind_ok h
  have first := ih.value hitem
  dsimp only at h
  split at h
  · cases h
    rw [itemsFit, first]
    rfl
  · obtain ⟨⟨items, rest⟩, hitems, h⟩ := exists_of_bind_ok h
    cases h
    rw [itemsFit, first]
    exact ih.items hitems
  · cases h

theorem fields_succ (ih : ReadsFitting fuel) {read : Fields} {r : Reading Fields}
    (hread : fieldsFit read) (h : readFields (fuel + 1) read cs = .ok r) : fieldsFit r.1 := by
  rw [readFields.eq_def] at h
  dsimp only at h
  split at h
  · obtain ⟨⟨key, rest⟩, -, h⟩ := exists_of_bind_ok h
    dsimp only at h
    split at h
    · obtain ⟨⟨value, rest⟩, hvalue, h⟩ := exists_of_bind_ok h
      have added : fieldsFit (setField key value read) :=
        fieldsFit_setField (ih.value hvalue) hread
      dsimp only at h
      split at h
      · cases h
        exact added
      · exact ih.fields added h
      · cases h
    · cases h
  · cases h

end ReadsFitting

/-- **All integers of what is read are within the limit**, in values, items and fields. -/
theorem readsFitting (fuel : Nat) : ReadsFitting fuel := by
  induction fuel with
  | zero => exact ⟨nofun, nofun, nofun⟩
  | succ fuel ih => exact ⟨ih.value_succ, ih.items_succ, ih.fields_succ⟩

end Reader

/-- A value that was read from a document has no integer that is too long. -/
theorem read_fits {cs : List Char} {v : Json} (h : read cs = .ok v) : v.fits := by
  rw [read] at h
  split at h
  · next v' hdocument =>
    cases h
    rw [Reader.readDocument] at hdocument
    split at hdocument
    · cases hdocument
    · obtain ⟨⟨value, rest⟩, hvalue, hdocument⟩ := exists_of_bind_ok hdocument
      dsimp only at hdocument
      split at hdocument
      · cases hdocument
        exact (Reader.readsFitting _).value hvalue
      · cases hdocument
  · cases h

end Json

/-- All integers inside the metadata of the record are within the limit. -/
def Record.Fits (r : Record) : Prop :=
  ∀ f ∈ r.metadata, f.2.fits

namespace Match

variable {v : Json} {r : Record} {text : String}

/-! ### Values under keys -/

theorem fits_field? {fields : Json.Fields} {key : String} (h : ∀ f ∈ fields, f.2.fits)
    (found : Json.field? fields key = some v) : v.fits :=
  h _ (Table.mem_of_get? found)

theorem fits_walk? {keys : List String} {w : Json} (h : v.fits) (found : walk? v keys = some w) :
    w.fits := by
  induction keys generalizing v with
  | nil =>
    obtain rfl := Option.some.inj found
    exact h
  | cons key keys ih =>
    cases v with
    | obj fields =>
      rw [walk?] at found
      split at found
      · next inner hfield => exact ih (fits_field? (Json.fieldsFit_iff.mp h) hfield) found
      · cases found
    | null | bool | int | float | str | arr => cases found

/-- What a key leads to in a record whose integers are within the limit. -/
theorem fits_lookup? (h : r.Fits) {key : String} (found : lookup? r.metadata key = some v) :
    v.fits := by
  rw [lookup?] at found
  split at found
  · next inner hfield =>
    obtain rfl := Option.some.inj found
    exact fits_field? h hfield
  · exact fits_walk? (v := .obj r.metadata) (Json.fieldsFit_iff.mpr h) found

/-! ### Searches -/

theorem textOf_eq (h : v.fits) : textOf v = .ok v.asText :=
  if_pos h

/-- **A value has no text** exactly if it has an integer that is too long. -/
theorem textOf_error_iff : (∃ e, textOf v = .error e) ↔ v.fits = false := by
  rw [textOf]
  cases v.fits with
  | true => exact iff_of_false nofun Bool.true_eq_false.mp
  | false => exact iff_of_true ⟨_, rfl⟩ rfl

theorem valuesContain_eq {fields : Json.Fields} (h : ∀ f ∈ fields, f.2.fits) :
    valuesContain text fields = .ok (fields.any fun f => containsFolded text f.2.asText) := by
  induction fields with
  | nil => rfl
  | cons f fields ih =>
    obtain ⟨first, rest⟩ := List.forall_mem_cons.mp h
    rw [valuesContain, textOf_eq first, ih rest, List.any_cons]
    change (if containsFolded text f.2.asText then _ else _ : Except Failure Bool) = _
    cases containsFolded text f.2.asText <;> rfl

/-- **What a search for a text answers** about a record whose integers are within the limit. -/
theorem containsText_eq (h : r.Fits) : containsText r text =
    .ok (containsFolded text r.message ||
      r.metadata.any fun f => containsFolded text f.2.asText) := by
  rw [containsText, valuesContain_eq h]
  cases containsFolded text r.message <;> rfl

theorem valuesContain_false_iff {fields : Json.Fields} : valuesContain text fields = .ok false ↔
    ∀ f ∈ fields, f.2.fits ∧ containsFolded text f.2.asText = false := by
  induction fields with
  | nil => exact iff_of_true rfl (List.forall_mem_nil _)
  | cons f fields ih =>
    rw [valuesContain, List.forall_mem_cons, ← ih]
    cases hf : f.2.fits with
    | false =>
      obtain ⟨e, he⟩ := textOf_error_iff.mpr hf
      rw [he]
      exact iff_of_false nofun fun h => nomatch h.1.1
    | true =>
      rw [textOf_eq hf]
      change (if containsFolded text f.2.asText then _ else _ : Except Failure Bool) = _ ↔ _
      cases containsFolded text f.2.asText <;> simp

/-- A search for a text that gets through all values without finding it. -/
theorem containsText_false_iff : containsText r text = .ok false ↔
    containsFolded text r.message = false ∧
      ∀ f ∈ r.metadata, f.2.fits ∧ containsFolded text f.2.asText = false := by
  rw [containsText, ← valuesContain_false_iff]
  cases containsFolded text r.message <;> simp

theorem valuesContain_error_iff {fields : Json.Fields} :
    (∃ e, valuesContain text fields = .error e) ↔
      ∃ before f after, fields = before ++ f :: after ∧ f.2.fits = false ∧
        ∀ g ∈ before, g.2.fits ∧ containsFolded text g.2.asText = false := by
  induction fields with
  | nil => exact iff_of_false nofun (by simp)
  | cons f fields ih =>
    rw [valuesContain]
    cases hf : f.2.fits with
    | false =>
      obtain ⟨e, he⟩ := textOf_error_iff.mpr hf
      rw [he]
      exact iff_of_true ⟨e, rfl⟩ ⟨[], f, fields, rfl, hf, List.forall_mem_nil _⟩
    | true =>
      rw [textOf_eq hf]
      change (∃ e, (if containsFolded text f.2.asText then _ else _ : Except Failure Bool) = _) ↔ _
      -- the first value is not the one that fails
      have later : (∃ before g after, f :: fields = before ++ g :: after ∧ g.2.fits = false ∧
          ∀ g ∈ before, g.2.fits ∧ containsFolded text g.2.asText = false) ↔
          containsFolded text f.2.asText = false ∧
            ∃ before g after, fields = before ++ g :: after ∧ g.2.fits = false ∧
              ∀ g ∈ before, g.2.fits ∧ containsFolded text g.2.asText = false := by
        constructor
        · rintro ⟨before, g, after, parts, hg, passed⟩
          cases before with
          | nil =>
            obtain ⟨rfl, -⟩ := List.cons.inj parts
            exact absurd (hf.symm.trans hg) nofun
          | cons f' before =>
            obtain ⟨rfl, rest⟩ := List.cons.inj parts
            obtain ⟨first, passed⟩ := List.forall_mem_cons.mp passed
            exact ⟨first.2, before, g, after, rest, hg, passed⟩
        · rintro ⟨first, before, g, after, rfl, hg, passed⟩
          exact ⟨f :: before, g, after, rfl, hg, List.forall_mem_cons.mpr ⟨⟨hf, first⟩, passed⟩⟩
      rw [later, ← ih]
      cases containsFolded text f.2.asText with
      | true => exact iff_of_false nofun nofun
      | false => exact (and_iff_right rfl).symm

/-- **A search for a text fails** exactly if the text is not in the message and there is an integer
that is too long in a value ahead of which no value has the text. -/
theorem containsText_error_iff : (∃ e, containsText r text = .error e) ↔
    containsFolded text r.message = false ∧
      ∃ before f after, r.metadata = before ++ f :: after ∧ f.2.fits = false ∧
        ∀ g ∈ before, g.2.fits ∧ containsFolded text g.2.asText = false := by
  rw [containsText, ← valuesContain_error_iff]
  cases containsFolded text r.message with
  | true => exact iff_of_false nofun nofun
  | false => exact (and_iff_right rfl).symm

end Match

end LogAlert
