import LogAlert.Table

/-!
# Reading tables after writing them

What is under a key after an entry was written or removed, and which keys a table then has.

## Main results

* `Table.get?_put`, `Table.get?_erase` : the entry of any key after a write or a removal.
* `Table.keys_put`, `Table.keys_erase` : the keys after it, in order.
* `Table.get?_foldl_put` : the entry of any key after several writes.
* `Table.foldl_put_zip` : the table of values under distinct keys.
* `Table.mem_iff_get?` : in a table without double keys the entries are what the keys read.
-/

namespace LogAlert.Table

variable {κ α : Type} [BEq κ]

@[simp] theorem get?_nil (k : κ) : get? ([] : Table κ α) k = none := rfl

theorem get?_cons (e : κ × α) (t : Table κ α) (k : κ) :
    get? (e :: t) k = if e.1 == k then some e.2 else get? t k := by
  unfold get?
  rw [List.find?_cons]
  cases e.1 == k <;> rfl

theorem has_eq_isSome (t : Table κ α) (k : κ) : t.has k = (t.get? k).isSome := by
  induction t with
  | nil => rfl
  | cons e t ih =>
    rw [get?_cons, has, List.any_cons]
    change (e.1 == k || has t k) = _
    rw [ih]
    cases e.1 == k <;> rfl

theorem keys_erase (t : Table κ α) (k : κ) : (erase k t).keys = t.keys.filter (· != k) := by
  simp only [keys, erase, List.filter_map]
  rfl

theorem nodup_keys_erase {t : Table κ α} (h : t.keys.Nodup) (k : κ) :
    (erase k t).keys.Nodup := by
  rw [keys_erase]
  exact h.filter _

variable [LawfulBEq κ]

/-- After a write the key reads the new value, and every other key what it read before. -/
theorem get?_put (t : Table κ α) (k j : κ) (v : α) :
    get? (put k v t) j = if k == j then some v else get? t j := by
  induction t with
  | nil => rw [put, get?_cons]
  | cons e t ih =>
    rw [put]
    by_cases h : e.1 = k
    · subst h
      simp only [beq_self_eq_true, if_true, get?_cons]
      cases e.1 == j <;> rfl
    · rw [if_neg (by simpa using h), get?_cons, get?_cons, ih]
      by_cases hj : k = j
      · subst hj
        simp [h]
      · simp [hj]

@[simp] theorem get?_put_self (t : Table κ α) (k : κ) (v : α) : get? (put k v t) k = some v := by
  rw [get?_put, if_pos (beq_self_eq_true k)]

theorem get?_put_of_ne (t : Table κ α) {k j : κ} (v : α) (h : k ≠ j) :
    get? (put k v t) j = get? t j := by
  rw [get?_put, if_neg (by simpa using h)]

/-- After a removal the key reads nothing, and every other key what it read before. -/
theorem get?_erase (t : Table κ α) (k j : κ) :
    get? (erase k t) j = if k == j then none else get? t j := by
  induction t with
  | nil => simp [erase]
  | cons e t ih =>
    have hstep : erase k (e :: t) = if e.1 == k then erase k t else e :: erase k t := by
      rw [erase, List.filter_cons, bne]
      cases e.1 == k <;> rfl
    rw [hstep]
    by_cases h : e.1 = k
    · subst h
      rw [if_pos (beq_self_eq_true e.1), ih, get?_cons]
      cases e.1 == j <;> rfl
    · rw [if_neg (by simpa using h), get?_cons, get?_cons, ih]
      by_cases hj : k = j
      · subst hj
        simp [h]
      · simp [hj]

@[simp] theorem get?_erase_self (t : Table κ α) (k : κ) : get? (erase k t) k = none := by
  rw [get?_erase, if_pos (beq_self_eq_true k)]

theorem get?_erase_of_ne (t : Table κ α) {k j : κ} (h : k ≠ j) :
    get? (erase k t) j = get? t j := by
  rw [get?_erase, if_neg (by simpa using h)]

theorem mem_of_get? {t : Table κ α} {k : κ} {v : α} (h : t.get? k = some v) : (k, v) ∈ t := by
  induction t with
  | nil => cases h
  | cons e t ih =>
    rw [get?_cons] at h
    split at h
    · next hk =>
      rw [← Option.some.inj h, ← eq_of_beq hk]
      exact List.mem_cons_self
    · exact List.mem_cons_of_mem e (ih h)

theorem mem_keys {t : Table κ α} {k : κ} : k ∈ t.keys ↔ (t.get? k).isSome := by
  induction t with
  | nil => simp [keys]
  | cons e t ih =>
    rw [get?_cons, keys, List.map_cons, List.mem_cons]
    change k = e.1 ∨ k ∈ keys t ↔ _
    rw [ih]
    by_cases h : e.1 = k
    · simp [h]
    · simp [h, Ne.symm h]

theorem get?_eq_none {t : Table κ α} {k : κ} : t.get? k = none ↔ k ∉ t.keys := by
  rw [mem_keys, Option.not_isSome_iff_eq_none]

/-- In a table without double keys, the entries are exactly what the keys read. -/
theorem mem_iff_get? {t : Table κ α} (nodup : t.keys.Nodup) {k : κ} {v : α} :
    (k, v) ∈ t ↔ t.get? k = some v := by
  refine ⟨fun h => ?_, mem_of_get?⟩
  induction t with
  | nil => cases h
  | cons e t ih =>
    obtain ⟨fresh, rest⟩ := List.nodup_cons.mp (nodup : (e.1 :: keys t).Nodup)
    rw [get?_cons]
    rcases List.mem_cons.mp h with rfl | h
    · rw [if_pos (beq_self_eq_true k)]
    · have hk : e.1 ≠ k := fun hk => fresh (List.mem_map.mpr ⟨(k, v), h, hk.symm⟩)
      rw [if_neg (by simpa using hk)]
      exact ih rest h

omit [LawfulBEq κ] in
/-- The entries after a write are the one that was written and old ones. -/
theorem mem_put {t : Table κ α} {k : κ} {v : α} {e : κ × α} (h : e ∈ put k v t) :
    e = (k, v) ∨ e ∈ t := by
  induction t with
  | nil => exact .inl (List.mem_singleton.mp h)
  | cons f t ih =>
    rw [put] at h
    split at h
    · exact (List.mem_cons.mp h).imp_right (List.mem_cons_of_mem f)
    · rcases List.mem_cons.mp h with rfl | h
      · exact .inr List.mem_cons_self
      · exact (ih h).imp_right (List.mem_cons_of_mem f)

/-- A write adds its key at the end, unless the table has it. -/
theorem keys_put (t : Table κ α) (k : κ) (v : α) :
    (put k v t).keys = if t.has k then t.keys else t.keys ++ [k] := by
  induction t with
  | nil => rfl
  | cons e t ih =>
    rw [put, has, List.any_cons]
    change _ = if e.1 == k || has t k then e.1 :: keys t else e.1 :: keys t ++ [k]
    by_cases h : e.1 = k
    · subst h
      simp [keys]
    · rw [if_neg (by simpa using h)]
      change e.1 :: (put k v t).keys = _
      rw [ih]
      cases has t k <;> simp [h]

theorem nodup_keys_put {t : Table κ α} (h : t.keys.Nodup) (k : κ) (v : α) :
    (put k v t).keys.Nodup := by
  rw [keys_put]
  split
  · exact h
  · next hk =>
    rw [has_eq_isSome, ← mem_keys] at hk
    exact List.nodup_append.mpr ⟨h, by simp, by
      rintro a ha b hb rfl
      exact hk (List.mem_singleton.mp hb ▸ ha)⟩

/-- Of two writes to a key the last one counts. -/
theorem put_put (t : Table κ α) (k : κ) (v w : α) : put k w (put k v t) = put k w t := by
  induction t with
  | nil => simp [put]
  | cons e t ih =>
    by_cases h : e.1 = k
    · simp [put, h]
    · simp [put, h, ih]

/-- Writes to different keys may change places if one of the keys is there. -/
theorem put_comm {t : Table κ α} {k j : κ} (hk : k ∈ t.keys) (hne : k ≠ j) (v w : α) :
    put k v (put j w t) = put j w (put k v t) := by
  induction t with
  | nil => cases hk
  | cons e t ih =>
    by_cases h : e.1 = k
    · have hj : e.1 ≠ j := h ▸ hne
      simp [put, h, hne]
    · have rest : k ∈ keys t := (List.mem_cons.mp hk).resolve_left (Ne.symm h)
      by_cases hj : e.1 = j
      · simp [put, hj, Ne.symm hne]
      · simp [put, h, hj, ih rest]

/-- An entry with a new key is written at the end. -/
theorem put_of_not_mem {t : Table κ α} {k : κ} (h : k ∉ t.keys) (v : α) :
    put k v t = t ++ [(k, v)] := by
  induction t with
  | nil => rfl
  | cons e t ih =>
    obtain ⟨hk, ht⟩ := not_or.mp (mt List.mem_cons.mpr h)
    rw [put, if_neg (by simpa using Ne.symm hk), ih ht]
    rfl

/-- The values of a table without double keys are what its keys read. -/
theorem filterMap_get?_keys {t : Table κ α} (nodup : t.keys.Nodup) :
    t.keys.filterMap t.get? = t.values := by
  have hmap : t.keys.map t.get? = t.values.map some := by
    rw [keys, values, List.map_map, List.map_map]
    exact List.map_congr_left fun e he => (mem_iff_get? nodup).mp he
  calc
    t.keys.filterMap t.get? = (t.keys.map t.get?).filterMap id := by
      rw [List.filterMap_map]
      rfl
    _ = (t.values.map some).filterMap id := by rw [hmap]
    _ = t.values := by
      rw [List.filterMap_map]
      exact List.filterMap_some

omit [LawfulBEq κ] in
/-- When the values of a table are changed, a key reads its value changed. -/
theorem get?_map_values {β : Type} (t : Table κ α) (f : α → β) (k : κ) :
    get? (t.map fun e => (e.1, f e.2)) k = (get? t k).map f := by
  induction t with
  | nil => rfl
  | cons e t ih =>
    rw [List.map_cons, get?_cons, get?_cons, ih]
    cases e.1 == k <;> rfl

/-- Of entries with distinct keys that are written one after the other, each is then read, and
keys that are not among them read what they read before. -/
theorem get?_foldl_put (entries : List (κ × α)) (nodup : (keys entries).Nodup) (t : Table κ α)
    (k : κ) :
    get? (entries.foldl (fun t e => put e.1 e.2 t) t) k = (get? entries k).or (get? t k) := by
  induction entries generalizing t with
  | nil => rfl
  | cons e entries ih =>
    obtain ⟨fresh, rest⟩ := List.nodup_cons.mp (nodup : (e.1 :: keys entries).Nodup)
    rw [List.foldl_cons, ih rest, get?_put, get?_cons]
    by_cases h : e.1 = k
    · subst h
      rw [get?_eq_none.mpr fresh, if_pos (beq_self_eq_true e.1), if_pos (beq_self_eq_true e.1)]
      rfl
    · simp [h]

/-- Entries with new and distinct keys are written at the end. -/
private theorem foldl_put {entries t : Table κ α} (nodup : (t ++ entries).keys.Nodup) :
    entries.foldl (fun t e => put e.1 e.2 t) t = t ++ entries := by
  induction entries generalizing t with
  | nil => simp
  | cons e entries ih =>
    have fresh : e.1 ∉ t.keys := by
      rw [keys, List.map_append, List.map_cons] at nodup
      intro h
      exact (List.nodup_append.mp nodup).2.2 _ h _ List.mem_cons_self rfl
    rw [List.append_cons] at nodup
    rw [List.foldl_cons, put_of_not_mem fresh, ih nodup, ← List.append_cons]

omit [BEq κ] [LawfulBEq κ] in
theorem keys_zip {ks : List κ} {vs : List α} (length : ks.length = vs.length) :
    keys (ks.zip vs) = ks :=
  List.map_fst_zip (Nat.le_of_eq length)

/-- **Values under distinct keys** stand in a table in their order. -/
theorem foldl_put_zip {β : Type} {xs : List β} {vs : List α} (key : β → κ)
    (nodup : (xs.map key).Nodup) (length : xs.length = vs.length) :
    (xs.zip vs).foldl (fun t e => put (key e.1) e.2 t) [] = (xs.map key).zip vs := by
  have entries : (xs.map key).zip vs = (xs.zip vs).map fun e => (key e.1, e.2) := by
    rw [List.zip_map_left]
    rfl
  have written := @foldl_put κ α _ _ ((xs.map key).zip vs) []
    (by rwa [List.nil_append, keys_zip (by rwa [List.length_map])])
  rw [List.nil_append, entries, List.foldl_map] at written
  rw [entries]
  exact written

end LogAlert.Table
