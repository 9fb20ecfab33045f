import LogAlert.Log.Store

/-!
# Searching a log store

The ids of a log store ascend.  A search from one end therefore finds the least or the greatest
id that answers the query, and a search that finds nothing has missed nothing.

## Main definitions

* `LogStore.Sound` : ids are positive and ascend.
* `LogStore.Extends` : a store with at most one record more.

## Main results

* `LogStore.Sound.extends` : ids still ascend after a new record.
* `LogStore.firstAfter_some`, `LogStore.Sound.firstAfter_first`, `LogStore.Sound.lastAfter_some`,
  `LogStore.Sound.lastAfter_none` : what is found, and what is not.
-/

namespace LogAlert.LogStore

/-- The ids of a store are positive and ascend, and the next one is greater than all of them. -/
structure Sound (s : LogStore) : Prop where
  ascending : s.records.Pairwise fun r r' => r.id < r'.id
  pos : ∀ r ∈ s.records, 0 < r.id
  lt : ∀ r ∈ s.records, r.id < s.nextId
  next_pos : 0 < s.nextId

/-- A log store that has the records of another one and at most one new record after them. -/
inductive Extends (s : LogStore) : LogStore → Prop where
  | same : Extends s s
  | added (r : Record) (newer : s.nextId ≤ r.id) : Extends s ⟨s.records ++ [r], r.id + 1⟩

theorem sound_empty : empty.Sound where
  ascending := List.Pairwise.nil
  pos _ h := nomatch h
  lt _ h := nomatch h
  next_pos := by decide

variable {s s' : LogStore} {after : Option Int} {tokens : List Token} {r : Record}

theorem Sound.extends (hs : s.Sound) (h : s.Extends s') : s'.Sound := by
  cases h with
  | same => exact hs
  | added r newer =>
    have hpos : 0 < r.id := Int.lt_of_lt_of_le hs.next_pos newer
    refine ⟨List.pairwise_append.mpr ⟨hs.ascending, List.pairwise_singleton .., ?_⟩, ?_, ?_, ?_⟩
    · intro x hx y hy
      obtain rfl := List.mem_singleton.mp hy
      exact Int.lt_of_lt_of_le (hs.lt x hx) newer
    · intro x hx
      rcases List.mem_append.mp hx with hx | hx
      · exact hs.pos x hx
      · exact List.mem_singleton.mp hx ▸ hpos
    · intro x hx
      rcases List.mem_append.mp hx with hx | hx
      · exact Int.lt_trans (Int.lt_of_lt_of_le (hs.lt x hx) newer) (Int.lt_succ r.id)
      · exact List.mem_singleton.mp hx ▸ Int.lt_succ r.id
    · exact Int.lt_trans hpos (Int.lt_succ r.id)

/-! ### The newest record -/

/-- The newest record is the one stored last. -/
theorem maxId_concat (rs : List Record) (r : Record) (next : Int) :
    maxId ⟨rs ++ [r], next⟩ = some r.id := by
  rw [maxId, List.getLast?_concat]
  rfl

/-- No record is newer than the newest one. -/
theorem Sound.le_maxId (hs : s.Sound) (h : r ∈ s.records) :
    ∃ newest, s.maxId = some newest ∧ r.id ≤ newest := by
  obtain ⟨init, last, hinit⟩ :=
    (List.eq_nil_or_concat s.records).resolve_left (List.ne_nil_of_mem h)
  rw [List.concat_eq_append] at hinit
  refine ⟨last.id, ?_, ?_⟩
  · rw [maxId, hinit, List.getLast?_concat]
    rfl
  · have asc := hs.ascending
    rw [hinit, List.pairwise_append] at asc
    rw [hinit] at h
    rcases List.mem_append.mp h with h | h
    · exact Int.le_of_lt (asc.2.2 r h last List.mem_cons_self)
    · exact Int.le_of_eq (List.mem_singleton.mp h ▸ rfl)

theorem Sound.exists_maxId {newest : Int} (h : s.maxId = some newest) :
    ∃ r ∈ s.records, r.id = newest := by
  obtain ⟨r, hr, hid⟩ := Option.map_eq_some_iff.mp h
  exact ⟨r, List.mem_of_getLast? hr, hid⟩

/-- What is not newer than the newest record is not so later either. -/
theorem Extends.le_maxId (hs : s.Sound) (h : s.Extends s') {n : Int}
    (hn : ∃ newest, s.maxId = some newest ∧ n ≤ newest) :
    ∃ newest, s'.maxId = some newest ∧ n ≤ newest := by
  cases h with
  | same => exact hn
  | added r newer =>
    obtain ⟨newest, hnewest, le⟩ := hn
    obtain ⟨x, hx, rfl⟩ := Sound.exists_maxId hnewest
    refine ⟨r.id, maxId_concat .., ?_⟩
    exact Int.le_trans le (Int.le_of_lt (Int.lt_of_lt_of_le (hs.lt x hx) newer))

/-! ### Searches -/

private theorem firstAbove_some {floor : Int} {rs : List Record}
    (h : firstAbove floor tokens rs = .ok (some r)) :
    r ∈ rs ∧ floor < r.id ∧ Token.holdAll tokens r = .ok true := by
  induction rs with
  | nil => cases h
  | cons x rs ih =>
    rw [firstAbove] at h
    split at h
    · next above =>
      cases hx : Token.holdAll tokens x with
      | error e =>
        rw [hx] at h
        cases h
      | ok holds =>
        rw [hx] at h
        cases holds with
        | true =>
          obtain rfl := Option.some.inj (Except.ok.inj h)
          exact ⟨List.mem_cons_self, above, hx⟩
        | false =>
          obtain ⟨hmem, hr⟩ := ih h
          exact ⟨List.mem_cons_of_mem x hmem, hr⟩
    · obtain ⟨hmem, hr⟩ := ih h
      exact ⟨List.mem_cons_of_mem x hmem, hr⟩

/-- Of records in ascending order, the search above a bound passes over none that answers the
query. -/
private theorem firstAbove_first {floor : Int} {rs : List Record} {found : Option Record}
    (ascending : rs.Pairwise fun r r' => r.id < r'.id)
    (h : firstAbove floor tokens rs = .ok found) :
    ∀ x ∈ rs, floor < x.id → Token.holdAll tokens x = .ok true → ∃ r ∈ found, r.id ≤ x.id := by
  induction rs with
  | nil => exact fun x hx => (nomatch hx)
  | cons y rs ih =>
    obtain ⟨newer, rest⟩ := List.pairwise_cons.mp ascending
    rw [firstAbove] at h
    split at h
    · cases hy : Token.holdAll tokens y with
      | error e =>
        rw [hy] at h
        cases h
      | ok holds =>
        rw [hy] at h
        cases holds with
        | true =>
          obtain rfl := Except.ok.inj h
          intro x hx _ _
          refine ⟨y, rfl, ?_⟩
          rcases List.mem_cons.mp hx with rfl | hx
          · exact Int.le_refl _
          · exact Int.le_of_lt (newer x hx)
        | false =>
          intro x hx above holds
          rcases List.mem_cons.mp hx with rfl | hx
          · cases hy.symm.trans holds
          · exact ih rest h x hx above holds
    · next below =>
      intro x hx above holds
      rcases List.mem_cons.mp hx with rfl | hx
      · exact absurd above below
      · exact ih rest h x hx above holds

/-- The first record found after an id is one that answers the query. -/
theorem firstAfter_some (h : s.firstAfter after tokens = .ok (some r)) :
    r ∈ s.records ∧ after.getD 0 < r.id ∧ Token.holdAll tokens r = .ok true :=
  firstAbove_some h

/-- The first record found after an id is not newer than any that answers the query. -/
theorem Sound.firstAfter_first (hs : s.Sound) {found : Option Record}
    (h : s.firstAfter after tokens = .ok found) :
    ∀ x ∈ s.records, after.getD 0 < x.id → Token.holdAll tokens x = .ok true →
      ∃ r ∈ found, r.id ≤ x.id :=
  firstAbove_first hs.ascending h

/-- Of records in descending order, the search up to a bound finds the first that answers the
query, or there is none above the bound. -/
private theorem firstUntil_spec {floor : Int} {rs : List Record} {found : Option Record}
    (descending : rs.Pairwise fun r r' => r'.id < r.id)
    (h : firstUntil floor tokens rs = .ok found) :
    (∀ r, found = some r → r ∈ rs ∧ floor < r.id ∧ Token.holdAll tokens r = .ok true) ∧
      ∀ x ∈ rs, Token.holdAll tokens x = .ok true → x.id ≤ (found.map (·.id)).getD floor := by
  induction rs with
  | nil =>
    obtain rfl := Except.ok.inj h
    exact ⟨fun _ hr => (nomatch hr), fun _ hx => (nomatch hx)⟩
  | cons x rs ih =>
    obtain ⟨older, rest⟩ := List.pairwise_cons.mp descending
    rw [firstUntil] at h
    split at h
    · next le =>
      obtain rfl := Except.ok.inj h
      refine ⟨fun _ hr => (nomatch hr), fun y hy _ => ?_⟩
      rcases List.mem_cons.mp hy with rfl | hy
      · exact le
      · exact Int.le_trans (Int.le_of_lt (older y hy)) le
    · next above =>
      cases hx : Token.holdAll tokens x with
      | error e =>
        rw [hx] at h
        cases h
      | ok holds =>
        rw [hx] at h
        cases holds with
        | true =>
          obtain rfl := Except.ok.inj h
          refine ⟨fun r hr => ?_, fun y hy _ => ?_⟩
          · obtain rfl := Option.some.inj hr
            exact ⟨List.mem_cons_self, Int.not_le.mp above, hx⟩
          · rcases List.mem_cons.mp hy with rfl | hy
            · exact Int.le_refl _
            · exact Int.le_of_lt (older y hy)
        | false =>
          obtain ⟨hfound, hmissed⟩ := ih rest h
          refine ⟨fun r hr => ?_, fun y hy holds => ?_⟩
          · obtain ⟨hmem, hr⟩ := hfound r hr
            exact ⟨List.mem_cons_of_mem x hmem, hr⟩
          · rcases List.mem_cons.mp hy with rfl | hy
            · rw [hx] at holds
              cases holds
            · exact hmissed y hy holds

/-- The last record found after an id is the latest one that answers the query. -/
theorem Sound.lastAfter_some (hs : s.Sound) (h : s.lastAfter after tokens = .ok (some r)) :
    r ∈ s.records ∧ after.getD 0 < r.id ∧ Token.holdAll tokens r = .ok true ∧
      ∀ x ∈ s.records, Token.holdAll tokens x = .ok true → x.id ≤ r.id := by
  obtain ⟨hfound, hmissed⟩ := firstUntil_spec (List.pairwise_reverse.mpr hs.ascending) h
  obtain ⟨hmem, above, holds⟩ := hfound r rfl
  exact ⟨List.mem_reverse.mp hmem, above, holds,
    fun x hx => hmissed x (List.mem_reverse.mpr hx)⟩

/-- If no record is found after an id, none after it answers the query. -/
theorem Sound.lastAfter_none (hs : s.Sound) (h : s.lastAfter after tokens = .ok none) :
    ∀ x ∈ s.records, Token.holdAll tokens x = .ok true → x.id ≤ after.getD 0 := by
  obtain ⟨-, hmissed⟩ := firstUntil_spec (List.pairwise_reverse.mpr hs.ascending) h
  exact fun x hx => hmissed x (List.mem_reverse.mpr hx)

end LogAlert.LogStore
