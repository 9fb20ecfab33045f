import LogAlert.KeyValue.AlertStore
import LogAlert.Proofs.StoredForms

/-!
# The keys of an alert store

An alert store in a key-value server has a key for each of its parts.  Different parts have
different keys, whatever the keys begin with.

## Main definitions

* `AlertStore.Slot` : the parts of a store.
* `AlertStore.slotKey` : the key of a part.

## Main results

* `idText_injective` : different ids have different texts.
* `AlertStore.slotKey_inj`, `AlertStore.slotKey_ne_channelKey` : different parts have different keys.
-/

namespace LogAlert

/-! ### The texts of ids -/

theorem idText_some (n : Int) : idText (some n) = String.ofList (Json.intText n) := rfl

/-- An integer is shown as an id is. -/
theorem toString_eq_idText (n : Int) : toString n = idText (some n) := by
  rw [Int.toString_eq_repr, Int.repr_eq_if, idText_some, Json.intText]
  refine String.toList_inj.mp ?_
  rw [String.toList_ofList]
  by_cases negative : n < 0
  · rw [if_neg (Int.not_le.mpr negative), if_pos negative, String.toList_append, Nat.repr,
      show (-n).toNat = n.natAbs by omega]
    exact congrArg ('-' :: ·) String.toList_ofList
  · rw [if_pos (Int.not_lt.mp negative), if_neg negative, Nat.repr, String.toList_ofList,
      show n.toNat = n.natAbs by omega]
    rfl

theorem colon_not_mem_idText (id : Option Int) : ':' ∉ (idText id).toList := by
  cases id with
  | none => decide
  | some n =>
    rw [idText_some, String.toList_ofList]
    intro h
    rcases intText_chars n _ h with h | h
    · exact absurd h (by decide)
    · exact absurd h (by decide)

theorem intText_injective {m n : Int} (h : Json.intText m = Json.intText n) : m = n := by
  have hm := readInt?_intText m
  rw [h, readInt?_intText n] at hm
  exact (Option.some.inj hm).symm

theorem idText_injective {i j : Option Int} (h : idText i = idText j) : i = j := by
  have hnone (n : Int) : idText none ≠ idText (some n) := by
    intro h
    obtain ⟨c, cs, hcons, hc⟩ := Json.Reader.head_intText n
    have hchars := congrArg String.toList h
    rw [idText_some, String.toList_ofList, hcons] at hchars
    obtain ⟨rfl, -⟩ := List.cons.inj (show 'N' :: ['o', 'n', 'e'] = c :: cs from hchars)
    rcases hc with hc | hc
    · exact absurd hc (by decide)
    · exact absurd hc (by decide)
  cases i with
  | none =>
    cases j with
    | none => rfl
    | some n => exact absurd h (hnone n)
  | some m =>
    cases j with
    | none => exact absurd h.symm (hnone m)
    | some n =>
      have hchars := congrArg String.toList h
      rw [idText_some, idText_some, String.toList_ofList, String.toList_ofList] at hchars
      exact congrArg some (intText_injective hchars)

namespace KeyValue.AlertStore

/-! ### Keys by their parts -/

/-- The characters of a key after its beginning. -/
def suffix (parts : List String) : List Char :=
  parts.flatMap fun part => ':' :: part.toList

theorem toList_key (st : AlertStore) (parts : List String) :
    (st.key parts).toList = st.keyPrefix.toList ++ suffix parts := by
  have join (first : String) : (String.intercalate ":" (first :: parts)).toList =
      first.toList ++ suffix parts := by
    induction parts generalizing first with
    | nil => rw [String.intercalate_singleton, suffix, List.flatMap_nil, List.append_nil]
    | cons part parts ih =>
      rw [String.intercalate_cons_cons, String.toList_append, String.toList_append, ih part,
        List.append_assoc]
      rfl
  exact join st.keyPrefix

theorem suffix_injective {parts others : List String} (hparts : ∀ part ∈ parts, ':' ∉ part.toList)
    (hothers : ∀ part ∈ others, ':' ∉ part.toList) (h : suffix parts = suffix others) :
    parts = others := by
  have stops (parts : List String) : (suffix parts).takeWhile (· != ':') = [] ∧
      (suffix parts).dropWhile (· != ':') = suffix parts := by
    cases parts with
    | nil => exact ⟨rfl, rfl⟩
    | cons part parts => exact ⟨rfl, rfl⟩
  induction parts generalizing others with
  | nil =>
    cases others with
    | nil => rfl
    | cons other others => cases h
  | cons part parts ih =>
    cases others with
    | nil => cases h
    | cons other others =>
      obtain ⟨hpart, hparts⟩ := List.forall_mem_cons.mp hparts
      obtain ⟨hother, hothers⟩ := List.forall_mem_cons.mp hothers
      have hplain {s : String} (hs : ':' ∉ s.toList) : ∀ c ∈ s.toList, (c != ':') = true :=
        fun c hc => bne_iff_ne.mpr fun heq => hs (heq ▸ hc)
      have htail : part.toList ++ suffix parts = other.toList ++ suffix others :=
        (List.cons.inj h).2
      -- the text up to the next colon is the same
      have hfirst := congrArg (List.takeWhile (· != ':')) htail
      have hrest := congrArg (List.dropWhile (· != ':')) htail
      rw [List.takeWhile_append_of_pos (hplain hpart), List.takeWhile_append_of_pos (hplain hother),
        (stops parts).1, (stops others).1, List.append_nil, List.append_nil] at hfirst
      rw [List.dropWhile_append_of_pos (hplain hpart), List.dropWhile_append_of_pos (hplain hother),
        (stops parts).2, (stops others).2] at hrest
      rw [String.toList_inj.mp hfirst, ih hparts hothers hrest]

/-! ### Slots -/

/-- The parts of a store. -/
inductive Slot where
  | alerts
  | channels
  | alert (id : Option Int)
  | links (id : Option Int)
  | cursor (id : Option Int)
  | history (id : Option Int)
  | channel (id : Option Int)
  | alertCounter
  | channelCounter
  | historyCounter
  deriving DecidableEq

/-- The parts of the key of a slot. -/
def Slot.parts : Slot → List String
  | .alerts => ["alerts"]
  | .channels => ["channels"]
  | .alert id => ["alert", idText id]
  | .links id => ["alert", idText id, "channels"]
  | .cursor id => ["cursor", idText id]
  | .history id => ["history", idText id]
  | .channel id => ["channel", idText id]
  | .alertCounter => ["seq", "alert"]
  | .channelCounter => ["seq", "channel"]
  | .historyCounter => ["seq", "history"]

/-- The key of a slot. -/
def slotKey (st : AlertStore) (s : Slot) : String :=
  st.key s.parts

theorem Slot.colon_not_mem (s : Slot) : ∀ part ∈ s.parts, ':' ∉ part.toList := by
  cases s with
  | alerts | channels | alertCounter | channelCounter | historyCounter => decide
  | alert id | links id | cursor id | history id | channel id =>
    simp only [parts, List.forall_mem_cons, colon_not_mem_idText, not_false_eq_true, true_and]
    decide

theorem Slot.parts_injective {s t : Slot} (h : s.parts = t.parts) : s = t := by
  cases s <;> cases t <;> simp_all [parts] <;> exact idText_injective h

/-- **Different slots have different keys.** -/
theorem slotKey_inj {st : AlertStore} {s t : Slot} : st.slotKey s = st.slotKey t ↔ s = t := by
  refine ⟨fun h => ?_, fun h => h ▸ rfl⟩
  have hchars := congrArg String.toList h
  rw [slotKey, slotKey, toList_key, toList_key, List.append_cancel_left_eq] at hchars
  exact Slot.parts_injective (suffix_injective s.colon_not_mem t.colon_not_mem hchars)

/-- The key of a slot is no key of a channel, whatever this ends in. -/
theorem slotKey_ne_channelKey {st : AlertStore} {s : Slot} (hs : ∀ id, s ≠ .channel id)
    (c : String) : st.slotKey s ≠ st.channelKey c := by
  intro h
  have hchars := congrArg String.toList h
  rw [slotKey, channelKey, toList_key, toList_key, List.append_cancel_left_eq] at hchars
  cases s with
  | channel id => exact hs id rfl
  | _ => simp [suffix, Slot.parts] at hchars

end KeyValue.AlertStore

end LogAlert
