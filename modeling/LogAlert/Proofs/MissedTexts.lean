import LogAlert.Proofs.Escapes
import LogAlert.Proofs.LetterCase
import Mathlib.Data.Bool.AllAny

/-!
# Texts missed in documents

A text inside an array or an object is looked for in the document for the value, case being ignored.
It is found in every document for a value that has it inside exactly if it is in one piece in its
written form.

## Main results

* `Json.missed_of_not_document` : a text with characters that documents do not have is missed.
* `Json.HasMark.exists_missed` : so is a text with a mark.
* `Json.found_iff_writtenAsIs` : the texts that are found in all documents for values that have them
  inside.
-/

namespace LogAlert.Json

open Text (lower lowerChar)

variable {cs ds : List Char} {x y c : Char} {m : Nat}

/-! ### Lower case -/

/-- What holds of the characters of all code points below a bound holds of all characters below
it. -/
theorem forall_of_toNat_lt {bound : Nat} {p : Char → Prop} (h : ∀ n < bound, p (Char.ofNat n)) :
    ∀ c : Char, c.toNat < bound → p c := by
  intro c hc
  have := h c.toNat hc
  rwa [Char.ofNat_toNat] at this

/-- Lower case maps a character of documents to another one, keeps backslashes and quotation marks,
and can be taken before or after writing. -/
theorem lowerChar_document {c : Char} (h : IsDocumentChar c) :
    IsDocumentChar (lowerChar c) ∧ (lowerChar c = '\\' → c = '\\') ∧
      writeChar (lowerChar c) = (writeChar c).map lowerChar :=
  forall_of_toNat_lt (p := fun c => IsDocumentChar c → IsDocumentChar (lowerChar c) ∧
    (lowerChar c = '\\' → c = '\\') ∧ writeChar (lowerChar c) = (writeChar c).map lowerChar)
    (by decide +kernel) c h.2 h

theorem map_lowerChar_documents (documents : ∀ c ∈ cs, IsDocumentChar c) :
    ∀ c ∈ cs.map lowerChar, IsDocumentChar c := by
  intro c hc
  obtain ⟨d, hd, rfl⟩ := List.mem_map.mp hc
  exact (lowerChar_document (documents d hd)).1

theorem map_lowerChar_written (documents : ∀ c ∈ cs, IsDocumentChar c) :
    (cs.flatMap writeChar).map lowerChar = (cs.map lowerChar).flatMap writeChar := by
  induction cs with
  | nil => rfl
  | cons c cs ih =>
    obtain ⟨document, rest⟩ := List.forall_mem_cons.mp documents
    rw [List.flatMap_cons, List.map_append, List.map_cons, List.flatMap_cons,
      (lowerChar_document document).2.2, ih rest]

/-- The kelvin sign, whose lower-case form is the letter k. -/
def kelvin : Char := '\u212a'

/-- Characters of documents and kelvin signs have one lower-case form each. -/
theorem lower_eq_map_lowerChar (h : ∀ c ∈ cs, IsDocumentChar c ∨ c = kelvin) :
    lower cs = cs.map lowerChar := by
  refine Text.lower_eq_map fun c hc => ⟨?_, ?_⟩
  · rintro rfl
    exact absurd (h _ hc) (by decide)
  · rintro rfl
    exact absurd (h _ hc) (by decide)

theorem lower_documents (documents : ∀ c ∈ cs, IsDocumentChar c) :
    lower cs = cs.map lowerChar :=
  lower_eq_map_lowerChar fun c hc => .inl (documents c hc)

/-- The images of the runs of the lower-case map, but for the kelvin sign, are not ASCII. -/
theorem le_of_lowerRuns {n k : Nat} (hn : 128 ≤ n) (hkelvin : n ≠ kelvin.toNat)
    (h : Text.lowerRuns.findSome? (·.image? n) = some k) : 128 ≤ k := by
  have hall : ∀ r ∈ Text.lowerRuns,
      r.last < 128 ∨ 128 ≤ r.first + r.shift ∨ r.first = kelvin.toNat ∧ r.last = kelvin.toNat := by
    decide +kernel
  obtain ⟨r, hr, himage⟩ := List.exists_of_findSome?_eq_some h
  have := hall r hr
  rw [Text.CaseRun.image?] at himage
  split at himage
  · next hrun =>
    simp only [Bool.and_eq_true, decide_eq_true_eq] at hrun
    obtain rfl := Option.some.inj himage
    omega
  · cases himage

/-- A code point from 128 on, or none at all, is not ASCII. -/
theorem not_isDocumentChar_ofNat {n : Nat} (hn : 128 ≤ n) : ¬IsDocumentChar (Char.ofNat n) := by
  intro h
  by_cases valid : n.isValidChar
  · rw [Char.ofNat, dif_pos valid] at h
    have high : n < 127 := h.2
    omega
  · rw [Char.ofNat, dif_neg valid] at h
    exact absurd h (by decide)

theorem not_isDocumentChar_lowerChar {c : Char} (h : ¬IsDocumentChar c) (hkelvin : c ≠ kelvin)
    (dotted : c ≠ '\u0130') : ¬IsDocumentChar (lowerChar c) := by
  by_cases ascii : c.toNat < 128
  · exact forall_of_toNat_lt (p := fun c => ¬IsDocumentChar c → ¬IsDocumentChar (lowerChar c))
      (by decide +kernel) c ascii h
  · have hdotted : ¬(c.toNat == 0x130) = true :=
      Bool.eq_false_iff.mp (Text.toNat_beq_eq_false dotted)
    rw [lowerChar, if_neg ascii, if_neg hdotted]
    split
    · next k himage =>
      exact not_isDocumentChar_ofNat
        (le_of_lowerRuns (Nat.le_of_not_lt ascii) (mt Char.toNat_inj.mp hkelvin) himage)
    · exact h

/-- Lower case makes no other character one of documents. -/
theorem exists_lowerImage {c : Char} (h : ¬IsDocumentChar c) (hkelvin : c ≠ kelvin) (final : Bool) :
    ∃ d ∈ Text.lowerImage c final, ¬IsDocumentChar d := by
  by_cases dotted : c = '\u0130'
  · subst dotted
    exact ⟨'\u0307', List.mem_cons_of_mem _ List.mem_cons_self, by decide⟩
  by_cases sigma : c = '\u03a3'
  · subst sigma
    cases final with
    | false => exact ⟨'\u03c3', List.mem_cons_self, by decide⟩
    | true => exact ⟨'\u03c2', List.mem_cons_self, by decide⟩
  refine ⟨lowerChar c, ?_, not_isDocumentChar_lowerChar h hkelvin dotted⟩
  rw [Text.lowerImage_single dotted sigma]
  exact List.mem_cons_self

/-! ### Documents without a text -/

/-- The document for an array that ends with a text, `front` being what is ahead of the text. -/
def arrayText (front cs : List Char) : List Char :=
  front ++ '"' :: (cs.flatMap writeChar ++ ['"', ']'])

/-- An array of one text. -/
theorem asText_item (s : String) :
    (Json.arr [.str s]).asText.toList = arrayText ['['] s.toList := by
  simp [asText, sortKeys, sortItems, write, writeChars, writeItems, writeText, arrayText]

/-- An array of null and a text. -/
theorem asText_null_item (s : String) :
    (Json.arr [.null, .str s]).asText.toList = arrayText "[null, ".toList s.toList := by
  simp [asText, sortKeys, sortItems, write, writeChars, writeItems, writeText, arrayText]

theorem isDocumentChar_written (cs : List Char) : ∀ c ∈ cs.flatMap writeChar, IsDocumentChar c := by
  intro c hc
  obtain ⟨d, -, hd⟩ := List.mem_flatMap.mp hc
  exact isDocumentChar_writeChar d c hd

theorem isDocumentChar_arrayText {front : List Char} (h : ∀ c ∈ front, IsDocumentChar c)
    (cs : List Char) : ∀ c ∈ arrayText front cs, IsDocumentChar c := by
  simp only [arrayText, List.forall_mem_append, List.forall_mem_cons]
  exact ⟨h, by decide, isDocumentChar_written cs, by decide, by decide, fun _ h => nomatch h⟩

theorem isDocumentChar_item (cs : List Char) : ∀ c ∈ arrayText ['['] cs, IsDocumentChar c :=
  isDocumentChar_arrayText (List.forall_mem_singleton.mpr (by decide)) cs

/-- A text with other characters than those of documents and kelvin signs is found in no
document. -/
theorem missed_of_not_document (documents : ∀ c ∈ ds, IsDocumentChar c) (hc : c ∈ cs)
    (h : ¬IsDocumentChar c) (hkelvin : c ≠ kelvin) : ¬lower cs <:+: lower ds := by
  intro occurs
  obtain ⟨before, after, rfl⟩ := List.append_of_mem hc
  obtain ⟨d, hd, hdocument⟩ := exists_lowerImage h hkelvin
    (Text.endsWord (before.reverse ++ []) (after ++ []))
  have hmem : d ∈ lower (before ++ c :: after) := by
    rw [Text.lower_eq, Text.lowerBetween_append, Text.lowerBetween]
    exact List.mem_append_right _ (List.mem_append_left _ hd)
  rw [lower_documents documents] at occurs
  exact hdocument (map_lowerChar_documents documents d (occurs.subset hmem))

/-- The letters k of a text are as many as in its written form, but for those that kelvin signs
become. -/
theorem count_k (h : ∀ c ∈ cs, IsDocumentChar c ∨ c = kelvin) :
    ((cs.flatMap writeChar).map lowerChar).count 'k' + cs.count kelvin =
      (cs.map lowerChar).count 'k' := by
  induction cs with
  | nil => rfl
  | cons c cs ih =>
    obtain ⟨hc, hcs⟩ := List.forall_mem_cons.mp h
    have rest := ih hcs
    have first : ((writeChar c).map lowerChar).count 'k' + [c].count kelvin =
        [lowerChar c].count 'k' := by
      rcases hc with document | rfl
      · rcases writeChar_cases document with ⟨-, rfl | rfl⟩ | ⟨written, -⟩
        · decide
        · decide
        · have none : [c].count kelvin = 0 := by
            refine List.count_eq_zero.mpr fun hc => ?_
            rw [← List.mem_singleton.mp hc] at document
            exact absurd document (by decide)
          rw [written, none]
          rfl
      · decide +kernel
    rw [List.flatMap_cons, List.map_append, List.count_append, List.map_cons,
      ← List.singleton_append, List.count_append, ← List.singleton_append (x := lowerChar c),
      List.count_append]
    omega

/-- A text with kelvin signs is not found in the document for an array of it. -/
theorem missed_of_kelvin (h : ∀ c ∈ cs, IsDocumentChar c ∨ c = kelvin) (mem : kelvin ∈ cs) :
    ¬lower cs <:+: lower (arrayText ['['] cs) := by
  intro occurs
  have frame : ((arrayText ['['] cs).map lowerChar).count 'k' =
      ((cs.flatMap writeChar).map lowerChar).count 'k' := by
    have back : (['"', ']'].map lowerChar).count 'k' = 0 := by decide
    rw [arrayText, List.singleton_append, List.map_cons, List.map_cons, List.map_append,
      List.count_cons_of_ne (by decide), List.count_cons_of_ne (by decide), List.count_append, back]
    rfl
  have fewer := occurs.count_le 'k'
  rw [lower_eq_map_lowerChar h, lower_documents (isDocumentChar_item cs), frame, ← count_k h]
    at fewer
  have pos : 0 < cs.count kelvin := List.count_pos_iff.mpr mem
  omega

/-- Lower case keeps the marks of a text. -/
theorem HasMark.map_lowerChar (h : HasMark cs x m y) (documents : ∀ c ∈ cs, IsDocumentChar c) :
    HasMark (cs.map lowerChar) (lowerChar x) m (lowerChar y) := by
  have hx := lowerChar_document (documents x (h.here.subset List.mem_cons_self))
  have hy := lowerChar_document (documents y (h.here.subset (by simp)))
  refine ⟨mt hx.2.1 h.before, mt hy.2.1 h.after, h.mark.imp_right fun quote => ?_, ?_⟩
  · rw [quote]
    decide
  · have here := h.here.map lowerChar
    rw [List.map_cons, List.map_append, List.map_replicate] at here
    exact here

/-- There is a document with any text in it, where what is ahead of the text does not end with a
given character. -/
theorem exists_document (x : Char) :
    ∃ front : List Char, IsUnmarked front ∧ (∀ c ∈ front, IsDocumentChar c) ∧
      front.map lowerChar = front ∧ front.getLast? ≠ some x ∧
      ∀ s : String, ∃ v : Json, v.fits ∧ v.Nests s ∧
        v.asText.toList = arrayText front s.toList := by
  by_cases hx : x = '['
  · refine ⟨"[null, ".toList, List.all_iff_forall_prop.mp (by decide),
      List.all_iff_forall_prop.mp (by decide), by decide, by rw [hx]; decide, fun s =>
        ⟨.arr [.null, .str s], rfl, ⟨.item ?_ .self, nofun⟩, asText_null_item s⟩⟩
    exact List.mem_cons_of_mem _ List.mem_cons_self
  · refine ⟨['['], List.forall_mem_singleton.mpr (by decide),
      List.forall_mem_singleton.mpr (by decide), by decide, ?_, fun s =>
        ⟨.arr [.str s], rfl, ⟨.item List.mem_cons_self .self, nofun⟩, asText_item s⟩⟩
    exact fun h => hx (Option.some.inj h).symm

/-- There is a letter other than two characters. -/
theorem exists_letter (x y : Char) :
    ∃ c, IsPlain c ∧ lowerChar c = c ∧ x ≠ c ∧ y ≠ c := by
  have hall : ∀ c ∈ ['a', 'b', 'c'], IsPlain c ∧ lowerChar c = c :=
    List.all_iff_forall_prop.mp (by decide)
  obtain ⟨c, hc, hx, hy⟩ : ∃ c ∈ ['a', 'b', 'c'], x ≠ c ∧ y ≠ c := by
    by_contra none
    simp only [List.mem_cons, List.not_mem_nil, or_false, exists_eq_or_imp, exists_eq_left, not_or,
      not_and_or, not_not] at none
    obtain ⟨rfl | rfl, hb | hb, hc | hc⟩ := none <;> simp_all
  exact ⟨c, (hall c hc).1, (hall c hc).2, hx, hy⟩

/-- A text with a mark is missed in a document for an array that has it inside another text. -/
theorem HasMark.exists_missed (h : HasMark cs x m y) (documents : ∀ c ∈ cs, IsDocumentChar c) :
    ∃ (v : Json) (s : String), v.fits ∧ v.Nests s ∧ cs <:+: s.toList ∧
      ¬lower cs <:+: lower v.asText.toList := by
  obtain ⟨front, unmarked, hfront, hlower, hx, holds⟩ := exists_document (lowerChar x)
  -- a letter that is not part of the mark is put around the text
  obtain ⟨c, plain, hc, hxc, hyc⟩ := exists_letter (lowerChar x) (lowerChar y)
  obtain ⟨v, fits, hv, htext⟩ := holds (String.ofList (c :: (cs ++ [c])))
  refine ⟨v, _, fits, hv, ?_, ?_⟩
  · rw [String.toList_ofList]
    exact ⟨[c], [c], rfl⟩
  · have lowered : (arrayText front (c :: (cs ++ [c]))).map lowerChar =
        front ++ '"' :: c :: ((cs.map lowerChar).flatMap writeChar ++ c :: '"' :: [']']) := by
      simp only [arrayText, List.map_append, List.map_cons, List.map_nil, hlower, List.flatMap_cons,
        List.flatMap_append, List.flatMap_nil, writeChar_of_plain plain,
        map_lowerChar_written documents, hc, List.append_assoc, List.cons_append, List.nil_append]
      rfl
    rw [htext, String.toList_ofList, lower_documents documents,
      lower_documents (isDocumentChar_arrayText hfront _), lowered]
    exact (h.map_lowerChar documents).missed plain (map_lowerChar_documents documents) hxc hyc
      unmarked hx (List.forall_mem_singleton.mpr (by decide))

/-- **A text that its escapes do not leave in one piece is missed** in some document for a value
that has it inside. -/
theorem exists_missed_document (h : ¬WrittenAsIs cs) :
    ∃ (v : Json) (s : String), v.fits ∧ v.Nests s ∧ cs <:+: s.toList ∧
      ¬lower cs <:+: lower v.asText.toList := by
  by_cases documents : ∀ c ∈ cs, IsDocumentChar c
  · by_contra found
    refine h (writtenAsIs_of_no_mark documents fun x m y mark => ?_)
    exact found (mark.exists_missed documents)
  refine ⟨.arr [.str (String.ofList cs)], String.ofList cs, rfl,
    ⟨.item List.mem_cons_self .self, nofun⟩, ?_, ?_⟩
  · rw [String.toList_ofList]
  rw [asText_item, String.toList_ofList]
  by_cases kelvins : ∀ c ∈ cs, IsDocumentChar c ∨ c = kelvin
  · have mem : kelvin ∈ cs := by
      by_contra absent
      exact documents fun c hc => (kelvins c hc).resolve_right fun h => absent (h ▸ hc)
    exact missed_of_kelvin kelvins mem
  · simp only [not_forall, not_or] at kelvins
    obtain ⟨c, hc, hdocument, hkelvin⟩ := kelvins
    exact missed_of_not_document (isDocumentChar_item cs) hc hdocument hkelvin

theorem WrittenAsIs.closed (h : WrittenAsIs cs) : ¬Text.HasOpenSigma cs := by
  rintro ⟨before, after, rfl, -⟩
  have sigma := h.documents '\u03a3' (List.mem_append_right _ List.mem_cons_self)
  exact absurd sigma (by decide)

/-- **The texts that are found wherever they are inside another value** are those that their escapes
leave in one piece. -/
theorem found_iff_writtenAsIs :
    (∀ (v : Json) (s : String), v.fits → v.Nests s → cs <:+: s.toList →
      lower cs <:+: lower v.asText.toList) ↔ WrittenAsIs cs := by
  constructor
  · intro found
    by_contra h
    obtain ⟨v, s, fits, hs, occurs, missed⟩ := exists_missed_document h
    exact missed (found v s fits hs occurs)
  · rintro h v s - ⟨hs, nested⟩ ⟨before, after, hcs⟩
    refine Text.lower_infix_iff.mpr h.closed _ (h.occurs_written.trans ?_)
    refine List.IsInfix.trans ?_ (hs.infix_asText nested)
    rw [← hcs, List.flatMap_append, List.flatMap_append]
    exact ⟨_, _, rfl⟩

end LogAlert.Json
