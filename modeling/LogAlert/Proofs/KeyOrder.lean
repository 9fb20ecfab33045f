import LogAlert.Proofs.LongIntegers
import Mathlib.Data.List.Nodup
import Mathlib.Logic.Relation

/-!
# The order of keys

Whether a record answers a token does not depend on the order in which its metadata, or any object
inside it, has its fields: values are looked up by key, a text in any of them is found wherever it
stands, and other values are compared as documents with sorted keys.  Only integers that are too
long to be written make the order count: a search ends at the first value that has the text, and so
does not come to those behind it.

## Main definitions

* `Json.Reorders` : one object of a value has its fields in another order.
* `Record.Reorders`, `Record.Rearranged` : the same of the metadata of a record, once or any number
  of times.

## Main results

* `Json.Reorders.sortKeys_eq` : sorting the keys undoes a reordering.
* `Match.alike_lookup?` : what stands under a key is the same but for a reordering.
* `Token.holds_rearranged` : the answer of a record is that of a rearranged one.
-/

namespace LogAlert

namespace Json

/-- The second value is the first one with the fields of one object, at any depth, in another order.
The object has each key once. -/
inductive Reorders : Json → Json → Prop where
  | fields {fs gs : Fields} (unique : (Table.keys fs).Nodup) (h : fs.Perm gs) :
      Reorders (.obj fs) (.obj gs)
  | item {v w : Json} (before after : List Json) (h : Reorders v w) :
      Reorders (.arr (before ++ v :: after)) (.arr (before ++ w :: after))
  | value {v w : Json} (before : Fields) (key : String) (after : Fields) (h : Reorders v w) :
      Reorders (.obj (before ++ (key, v) :: after)) (.obj (before ++ (key, w) :: after))

/-- What is found in a value and in a reordered one: the same, or a reordering of it. -/
inductive Alike : Option Json → Option Json → Prop where
  | same (found : Option Json) : Alike found found
  | reordered {v w : Json} (h : Reorders v w) : Alike (some v) (some w)

variable {v w : Json} {fs gs : Fields}

/-! ### Sorted keys -/

theorem sortItems_eq_map (items : List Json) : sortItems items = items.map sortKeys := by
  induction items with
  | nil => rfl
  | cons v items ih => rw [sortItems, List.map_cons, ih]

theorem sortFields_eq_map (fs : Fields) : sortFields fs = fs.map fun f => (f.1, f.2.sortKeys) := by
  induction fs with
  | nil => rfl
  | cons f fs ih => rw [sortFields, List.map_cons, ih]

/-- The keys of an object with sorted values are those of the object. -/
theorem keys_sortFields (fs : Fields) : Table.keys (sortFields fs) = Table.keys fs := by
  rw [sortFields_eq_map]
  exact List.map_map

/-- If no two fields have the same key, there is one order that is sorted. -/
theorem sortByKey_eq_of_perm (unique : (Table.keys fs).Nodup) (h : fs.Perm gs) :
    sortByKey fs = sortByKey gs := by
  have sorted (fs : Fields) :
      (sortByKey fs).Pairwise fun f g => decide (f.1 ≤ g.1) = true := by
    refine List.pairwise_mergeSort (fun f g k hfg hgk => ?_) (fun f g => ?_) fs
    · exact decide_eq_true (String.le_trans (of_decide_eq_true hfg) (of_decide_eq_true hgk))
    · simpa only [Bool.or_eq_true, decide_eq_true_iff] using String.le_total f.1 g.1
  have perm : (sortByKey fs).Perm (sortByKey gs) :=
    (List.mergeSort_perm fs _).trans (h.trans (List.mergeSort_perm gs _).symm)
  refine perm.eq_of_pairwise (fun f g hf hg hfg hgf => ?_) (sorted fs) (sorted gs)
  have hkey : f.1 = g.1 := String.le_antisymm (of_decide_eq_true hfg) (of_decide_eq_true hgf)
  exact List.inj_on_of_nodup_map unique (List.mem_mergeSort.mp hf)
    (h.mem_iff.mpr (List.mem_mergeSort.mp hg)) hkey

/-- **Sorting the keys undoes a reordering.** -/
theorem Reorders.sortKeys_eq (h : Reorders v w) : v.sortKeys = w.sortKeys := by
  induction h with
  | @fields fs gs unique h =>
    rw [sortKeys, sortKeys]
    refine congrArg Json.obj (sortByKey_eq_of_perm ?_ ?_)
    · rw [keys_sortFields]
      exact unique
    · rw [sortFields_eq_map, sortFields_eq_map]
      exact h.map _
  | item before after _ ih =>
    simp only [sortKeys, sortItems_eq_map, List.map_append, List.map_cons, ih]
  | value before key after _ ih =>
    simp only [sortKeys, sortFields_eq_map, List.map_append, List.map_cons, ih]

/-- As text, a value is the same in any order. -/
theorem Reorders.asText_eq (h : Reorders v w) : v.asText = w.asText := by
  have text := congrArg write h.sortKeys_eq
  cases h with
  | fields => exact text
  | item => exact text
  | value => exact text

/-- The integers of a value are the same in any order. -/
theorem Reorders.fits_eq (h : Reorders v w) : v.fits = w.fits := by
  induction h with
  | fields _ h =>
    rw [fits, fits, Bool.eq_iff_iff, fieldsFit_iff, fieldsFit_iff]
    exact forall_congr' fun f => by rw [h.mem_iff]
  | item before after _ ih =>
    rw [fits, fits, Bool.eq_iff_iff]
    simp only [itemsFit_iff, List.forall_mem_append, List.forall_mem_cons, ih]
  | value before key after _ ih =>
    rw [fits, fits, Bool.eq_iff_iff]
    simp only [fieldsFit_iff, List.forall_mem_append, List.forall_mem_cons, ih]

/-! ### Lookup -/

/-- A key that an object has once stands for the same value in any order. -/
theorem field?_eq_of_perm (unique : (Table.keys fs).Nodup) (h : fs.Perm gs) (key : String) :
    field? fs key = field? gs key := by
  refine Option.ext fun v => ?_
  have unique' : (Table.keys gs).Nodup := List.Perm.nodup (h.map (·.1)) unique
  exact (Table.mem_iff_get? unique).symm.trans (h.mem_iff.trans (Table.mem_iff_get? unique'))

/-- Under every key, two objects that differ in one value have the same, or these values. -/
theorem alike_field?_value (before : Fields) (k : String) (after : Fields) (h : Reorders v w)
    (key : String) :
    Alike (field? (before ++ (k, v) :: after) key) (field? (before ++ (k, w) :: after) key) := by
  induction before with
  | nil =>
    rw [List.nil_append, List.nil_append, field?, field?, Table.get?_cons, Table.get?_cons]
    cases k == key with
    | true => exact .reordered h
    | false => exact .same _
  | cons f before ih =>
    rw [List.cons_append, List.cons_append, field?, field?, Table.get?_cons, Table.get?_cons]
    cases f.1 == key with
    | true => exact .same _
    | false => exact ih

/-- What two reordered objects have under a key is alike. -/
theorem Reorders.alike_field? (h : Reorders (.obj fs) (.obj gs)) (key : String) :
    Alike (field? fs key) (field? gs key) := by
  cases h with
  | fields unique h =>
    rw [field?_eq_of_perm unique h]
    exact .same _
  | value before k after h => exact alike_field?_value before k after h key

end Json

namespace Match

open Json (Alike Reorders)

variable {v w : Json} {fs gs : Json.Fields}

/-- Where a path leads in two reordered values is alike. -/
theorem alike_walk? (h : Reorders v w) (keys : List String) :
    Alike (walk? v keys) (walk? w keys) := by
  induction keys generalizing v w with
  | nil => exact .reordered h
  | cons key keys ih =>
    -- what the first key leads to in two objects
    have next {fs gs : Json.Fields} (h : Reorders (.obj fs) (.obj gs)) :
        Alike (walk? (.obj fs) (key :: keys)) (walk? (.obj gs) (key :: keys)) := by
      have found := h.alike_field? key
      rw [walk?, walk?]
      generalize Json.field? fs key = v?, Json.field? gs key = w? at found
      cases found with
      | same => exact .same _
      | reordered h => exact ih h
    cases h with
    | fields unique h => exact next (.fields unique h)
    | item => exact .same none
    | value before k after h => exact next (.value before k after h)

/-- What stands under a key in two reordered objects is alike, also if the key is a path. -/
theorem alike_lookup? (h : Reorders (.obj fs) (.obj gs)) (key : String) :
    Alike (lookup? fs key) (lookup? gs key) := by
  have path := alike_walk? h ((Text.splitOn '.' key.toList).map String.ofList)
  have found := h.alike_field? key
  rw [lookup?, lookup?]
  generalize Json.field? fs key = v?, Json.field? gs key = w? at found
  cases found with
  | same =>
    cases v? with
    | none => exact path
    | some v => exact .same (some v)
  | reordered h => exact .reordered h

/-! ### Answers -/

/-- A comparison asks of a value whether it is null, what number it is and what its text is. -/
theorem compare_congr (null : v.isNull = w.isNull) (number : numberOf v = numberOf w)
    (text : textOf v = textOf w) (op : Operator) (expected : String) :
    compare v op expected = compare w op expected := by
  rw [compare, compare, null, number, text]

theorem textOf_eq_of_reorders (h : Reorders v w) : textOf v = textOf w := by
  rw [textOf, textOf, h.fits_eq, h.asText_eq]

/-- Arrays and objects compare by their texts. -/
theorem compare_eq_of_reorders (h : Reorders v w) (op : Operator) (expected : String) :
    compare v op expected = compare w op expected := by
  refine compare_congr ?_ ?_ (textOf_eq_of_reorders h) op expected
  · cases h <;> rfl
  · cases h <;> rfl

/-- The texts of the values of an object are the same in any order. -/
theorem any_asText_eq (h : Reorders (.obj fs) (.obj gs)) (p : String → Bool) :
    (fs.any fun f => p f.2.asText) = gs.any fun f => p f.2.asText := by
  cases h with
  | fields _ h => exact h.any_eq
  | value before key after h => simp only [List.any_append, List.any_cons, h.asText_eq]

end Match

namespace Record

/-- The second record is the first one with the fields of its metadata, or of one object inside it,
in another order. -/
inductive Reorders (r : Record) : Record → Prop where
  | metadata {gs : Json.Fields} (h : Json.Reorders (.obj r.metadata) (.obj gs)) :
      Reorders r { r with metadata := gs }

/-- The second record is the first one with the fields of its metadata, and of any objects inside
it, in other orders. -/
def Rearranged : Record → Record → Prop :=
  Relation.ReflTransGen Reorders

end Record

namespace Match

open Record (Reorders)

variable {r r' : Record}

theorem fits_of_reorders (h : Reorders r r') (hr : r.Fits) : r'.Fits := by
  obtain ⟨h⟩ := h
  refine Json.fieldsFit_iff.mp (h.fits_eq.symm.trans ?_)
  exact Json.fieldsFit_iff.mpr hr

theorem containsText_eq_of_reorders (h : Reorders r r') (hr : r.Fits) (text : String) :
    containsText r text = containsText r' text := by
  rw [containsText_eq hr, containsText_eq (fits_of_reorders h hr)]
  obtain ⟨h⟩ := h
  exact congrArg (fun found => Except.ok (containsFolded text r.message || found))
    (any_asText_eq h (containsFolded text))

theorem metadataMatches_eq_of_reorders (h : Reorders r r') (key : String) (op : Operator)
    (value : String) : metadataMatches r key op value = metadataMatches r' key op value := by
  obtain @⟨gs, h⟩ := h
  rw [metadataMatches, metadataMatches]
  match lookup? r.metadata key, lookup? gs key, alike_lookup? h key with
  | _, _, .same _ => rfl
  | _, _, .reordered h => exact compare_eq_of_reorders h op value

/-- The field `level` counts as a text only, and a text has no fields. -/
theorem levelMatches_eq_of_reorders (h : Reorders r r') (level : String) :
    levelMatches r level = levelMatches r' level := by
  obtain @⟨gs, h⟩ := h
  rw [levelMatches, levelMatches]
  match Json.field? r.metadata "level", Json.field? gs "level", h.alike_field? "level" with
  | _, _, .same _ => rfl
  | _, _, .reordered h => cases h <;> rfl

theorem sourceMatches_eq_of_reorders (h : Reorders r r') (pattern : String) :
    sourceMatches r pattern = sourceMatches r' pattern := by
  obtain @⟨gs, h⟩ := h
  rw [sourceMatches, sourceMatches]
  match Json.field? r.metadata "source", Json.field? gs "source", h.alike_field? "source" with
  | _, _, .same _ => rfl
  | _, _, .reordered h => cases h <;> rfl

end Match

/-- A reordering does not change whether a record answers a filter. -/
theorem Filter.holds_eq_of_reorders {r r' : Record} (h : r.Reorders r') (hr : r.Fits)
    (f : Filter) : f.holds r = f.holds r' := by
  cases f with
  | term text => exact Match.containsText_eq_of_reorders h hr text
  | phrase text => exact Match.containsText_eq_of_reorders h hr text
  | metadata key op value => exact Match.metadataMatches_eq_of_reorders h key op value
  | level name => exact congrArg Except.ok (Match.levelMatches_eq_of_reorders h name)
  | timestamp op m =>
    obtain ⟨h⟩ := h
    rfl
  | source p => exact congrArg Except.ok (Match.sourceMatches_eq_of_reorders h p)

variable {r r' : Record}

theorem Record.Rearranged.fits (h : r.Rearranged r') (hr : r.Fits) : r'.Fits := by
  induction h with
  | refl => exact hr
  | tail _ step ih => exact Match.fits_of_reorders step ih

/-- **The order of keys is irrelevant.**  Two records that differ only in the order of the fields of
their metadata, and of the objects inside it at any depth, give every token the same answer, and
fail on the same tokens with the same failure, if no integer in them is too long to be written. -/
theorem Token.holds_rearranged (hr : r.Fits) (h : r.Rearranged r') (t : Token) :
    t.holds r = t.holds r' := by
  induction h with
  | refl => rfl
  | tail before step ih =>
    have fits := Record.Rearranged.fits before hr
    rw [ih, Token.holds, Token.holds, t.filter.holds_eq_of_reorders step fits]

namespace Sample

/-- A record of a request. -/
def request : Record :=
  { id := 1
    timestamp := ⟨63890000000000000, some 0⟩
    level := "error"
    message := "request failed"
    source := "gateway"
    metadata := [("host", .str "a"), ("http", .obj [("status", .int 502),
      ("tries", .arr [.obj [("node", .str "n1"), ("ms", .int 30)]])])] }

/-- The same record, written with other orders of keys. -/
def requestReordered : Record :=
  { request with
    metadata := [("http", .obj [("status", .int 502),
      ("tries", .arr [.obj [("ms", .int 30), ("node", .str "n1")]])]), ("host", .str "a")] }

theorem request_rearranged : request.Rearranged requestReordered := by
  have innermost : Json.Reorders (.obj [("node", .str "n1"), ("ms", .int 30)])
      (.obj [("ms", .int 30), ("node", .str "n1")]) :=
    .fields (by decide) (.swap _ _ [])
  have inside := (innermost.item [] []).value [("status", .int 502)] "tries" []
  refine .tail (.single (.metadata (inside.value [("host", .str "a")] "http" []))) ?_
  exact .metadata (.fields (by decide) (.swap _ _ []))

end Sample

theorem Token.holds_rearranged_of_request :
    Sample.request.Fits ∧ Sample.request.Rearranged Sample.requestReordered ∧
      ((⟨false, .metadata "http.status" .gte "500"⟩ : Token).holds
        Sample.requestReordered).toOption = some true := by
  have fits : Sample.request.Fits := Json.fieldsFit_iff.mp (by decide +kernel)
  refine ⟨fits, Sample.request_rearranged, ?_⟩
  rw [← Token.holds_rearranged fits Sample.request_rearranged]
  decide +kernel

end LogAlert
