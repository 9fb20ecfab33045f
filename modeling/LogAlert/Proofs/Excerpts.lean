import LogAlert.Proofs.ReachableStores
import LogAlert.Proofs.Searches

/-!
# Excerpts of a search

The reads of a log store walk over its records in their own ways: forwards from an id on, backwards
down to an id, and up to a number of matches.  On a store that calls have written, each of them
yields a part of what the whole search finds: its first record after an id, its last one, and its
first records up to the limit, of which there is one even if the limit is zero.

## Main definitions

* `LogStore.Write`, `LogStore.written` : the calls that write to a store, and what they make of it.
* `Record.isAfter` : whether a record is after an id that may be missing.

## Main results

* `LogStore.firstAbove_eq`, `LogStore.firstUntil_eq`, `Chain.select_limited` : the three walks.
* `LogStore.written_reads_agree` : the first and the last match.
* `LogStore.written_limit_iff` : the search with a limit.
-/

namespace LogAlert

/-- Whether a record is after the given id.  Without an id every record is. -/
def Record.isAfter (after : Option Int) (r : Record) : Bool :=
  after.all (· < r.id)

namespace LogStore

/-! ### Stores that calls have written -/

/-- A call that writes to a log store. -/
inductive Write where
  | add (r : Record)
  | append (source message level : String) (timestamp : Moment) (metadata : Json.Fields)

/-- The store after a call.  A record that is refused changes nothing. -/
def write (s : LogStore) : Write → LogStore
  | .add r => (s.add r).toOption.getD s
  | .append source message level timestamp metadata =>
    (s.append source message level timestamp metadata).1

/-- The store after calls, from the empty one on. -/
def written (calls : List Write) : LogStore :=
  calls.foldl write empty

theorem written_concat (calls : List Write) (call : Write) :
    written (calls ++ [call]) = (written calls).write call :=
  List.foldl_concat ..

theorem Reachable.write {s : LogStore} (h : s.Reachable) (call : Write) :
    (s.write call).Reachable := by
  cases call with
  | add r =>
    rw [LogStore.write]
    cases hadd : s.add r with
    | error e => exact h
    | ok s' => exact h.add hadd
  | append source message level timestamp metadata => exact h.append ..

theorem reachable_written (calls : List Write) : (written calls).Reachable := by
  have run {s : LogStore} (h : s.Reachable) : (calls.foldl write s).Reachable := by
    induction calls generalizing s with
    | nil => exact h
    | cons call calls ih => exact ih (h.write call)
  exact run .empty

/-- The next id follows the newest one, and without records it is one. -/
theorem Reachable.nextId_eq {s : LogStore} (h : s.Reachable) : s.nextId = s.maxId.getD 0 + 1 := by
  cases h with
  | empty => rfl
  | @add s _ _ r added =>
    rw [LogStore.add] at added
    split at added
    · cases added
    · obtain rfl := Except.ok.inj added
      rw [maxId_concat, Option.getD_some]
  | append =>
    rw [LogStore.append, maxId_concat, Option.getD_some]
    rfl

/-- An added record is stored behind the others if its id is greater than the newest one, and
refused if not, which changes nothing. -/
theorem Reachable.write_add {s : LogStore} (h : s.Reachable) (r : Record) :
    s.maxId.getD 0 < r.id ∧ (s.write (.add r)).records = s.records ++ [r] ∨
      r.id ≤ s.maxId.getD 0 ∧ (∃ e, s.add r = .error e) ∧ s.write (.add r) = s := by
  have hnext := h.nextId_eq
  rw [LogStore.write, LogStore.add]
  by_cases old : r.id < s.nextId
  · rw [if_pos old]
    exact .inr ⟨by omega, ⟨_, rfl⟩, rfl⟩
  · rw [if_neg old]
    exact .inl ⟨by omega, rfl⟩

variable {s : LogStore} {tokens : List Token} {rs : List Record}

/-! ### The walks -/

/-- The walk from a bound on finds the first record above it that answers the query. -/
theorem firstAbove_eq (hrs : ∀ r ∈ rs, Token.holdAll tokens r = .ok (r.answers tokens))
    (floor : Int) :
    firstAbove floor tokens rs = .ok (rs.find? fun r => floor < r.id && r.answers tokens) := by
  induction rs with
  | nil => rfl
  | cons r rs ih =>
    obtain ⟨hr, hrs⟩ := List.forall_mem_cons.mp hrs
    rw [firstAbove, hr, List.find?_cons]
    by_cases above : floor < r.id
    · rw [if_pos above, decide_eq_true above, Bool.true_and]
      cases r.answers tokens with
      | true => rfl
      | false => exact ih hrs
    · rw [if_neg above, decide_eq_false above, Bool.false_and]
      exact ih hrs

/-- The walk down to a bound finds the same, as the records behind the bound are below it. -/
theorem firstUntil_eq (descending : rs.Pairwise fun r r' => r'.id < r.id)
    (hrs : ∀ r ∈ rs, Token.holdAll tokens r = .ok (r.answers tokens)) (floor : Int) :
    firstUntil floor tokens rs = .ok (rs.find? fun r => floor < r.id && r.answers tokens) := by
  induction rs with
  | nil => rfl
  | cons r rs ih =>
    obtain ⟨hr, hrs⟩ := List.forall_mem_cons.mp hrs
    obtain ⟨older, descending⟩ := List.pairwise_cons.mp descending
    rw [firstUntil]
    split
    · next below =>
      -- nothing from here on is above the bound
      refine (congrArg Except.ok (List.find?_eq_none.mpr fun x hx => ?_)).symm
      have hx : x.id ≤ floor := by
        rcases List.mem_cons.mp hx with rfl | hx
        · exact below
        · exact Int.le_trans (Int.le_of_lt (older x hx)) below
      rw [decide_eq_false (Int.not_lt.mpr hx), Bool.false_and]
      exact Bool.false_ne_true
    · next above =>
      rw [hr, List.find?_cons, decide_eq_true (Int.not_le.mp above), Bool.true_and]
      cases r.answers tokens with
      | true => rfl
      | false => exact ih descending hrs

end LogStore

/-- A search with a limit stops behind the match that reaches it, so there is always room for one
match. -/
theorem Chain.select_limited {tokens : List Token} {rs : List Record}
    (hrs : ∀ r ∈ rs, Token.holdAll tokens r = .ok (r.answers tokens)) (limit : Int) :
    Chain.select tokens (some limit) rs =
      .ok ((rs.filter (·.answers tokens)).take (max limit.toNat 1)) := by
  induction rs generalizing limit with
  | nil => rw [select, List.filter_nil, List.take_nil]
  | cons r rs ih =>
    obtain ⟨hr, hrs⟩ := List.forall_mem_cons.mp hrs
    rw [select, hr, List.filter_cons]
    cases r.answers tokens with
    | false => exact ih hrs limit
    | true =>
      -- the limit is compared when the match is out already, which is where zero acts as one
      change (if limit ≤ 1 then .ok [r]
        else (select tokens (some (limit - 1)) rs).map (r :: ·)) = _
      rw [if_pos rfl]
      split
      · next last =>
        have room : max limit.toNat 1 = 1 := by omega
        rw [room, List.take_succ_cons, List.take_zero]
      · next more =>
        have room : max limit.toNat 1 = max (limit - 1).toNat 1 + 1 := by omega
        rw [ih hrs, room, List.take_succ_cons]
        rfl

namespace LogStore

variable {s : LogStore} {tokens : List Token}

/-! ### Parts of the whole search -/

/-- Ids are positive, so that without an id to be after every record is after zero. -/
theorem Sound.isAfter_eq (hs : s.Sound) {r : Record} (hr : r ∈ s.records) (after : Option Int) :
    r.isAfter after = decide (after.getD 0 < r.id) := by
  cases after with
  | none => exact (decide_eq_true (hs.pos r hr)).symm
  | some seen => rfl

/-- What a search finds after an id. -/
theorem Sound.filter_isAfter (hs : s.Sound) (after : Option Int) :
    (s.records.filter (·.answers tokens)).filter (·.isAfter after) =
      s.records.filter fun r => after.getD 0 < r.id && r.answers tokens := by
  rw [List.filter_filter]
  exact List.filter_congr fun r hr => by rw [hs.isAfter_eq hr]

/-- The first match after an id is the first record of the search that is after it. -/
theorem Sound.firstAfter_eq (hs : s.Sound) (h : s.Answerable tokens) (after : Option Int) :
    s.firstAfter after tokens =
      .ok ((s.records.filter (·.answers tokens)).filter (·.isAfter after)).head? := by
  rw [hs.filter_isAfter, List.head?_filter]
  exact firstAbove_eq (fun r hr => h.holdAll_eq hr) _

/-- The last match after an id is the last record of the search that is after it. -/
theorem Sound.lastAfter_eq (hs : s.Sound) (h : s.Answerable tokens) (after : Option Int) :
    s.lastAfter after tokens =
      .ok ((s.records.filter (·.answers tokens)).filter (·.isAfter after)).getLast? := by
  rw [hs.filter_isAfter, List.getLast?_eq_head?_reverse, ← List.filter_reverse, List.head?_filter]
  exact firstUntil_eq (List.pairwise_reverse.mpr hs.ascending)
    (fun r hr => h.holdAll_eq (List.mem_reverse.mp hr)) _

/-- **The reads of a store agree.**  Whatever calls have written the store, its ids are positive and
ascend, and the newest id is that of the last record.  A record that is added next goes behind the
others or changes nothing, which its id and the newest one decide.  For tokens that have answers on
all records, the first and the last match after an id are the first and the last record with a
greater id that the search finds, or of all that it finds if there is no id to be after.  So either
there are both, or the search finds no such record. -/
theorem written_reads_agree (calls : List Write) :
    (∀ r ∈ (written calls).records, 1 ≤ r.id) ∧
      ((written calls).records.Pairwise fun r r' => r.id < r'.id) ∧
      (written calls).maxId = (written calls).records.getLast?.map (·.id) ∧
      (∀ r, (written calls).maxId.getD 0 < r.id ∧
          (written (calls ++ [.add r])).records = (written calls).records ++ [r] ∨
        r.id ≤ (written calls).maxId.getD 0 ∧ (∃ e, (written calls).add r = .error e) ∧
          written (calls ++ [.add r]) = written calls) ∧
      ∀ tokens, (written calls).Answerable tokens →
        ∃ found, (written calls).search tokens none = .ok found ∧
          ∀ after : Option Int, ∃ first last,
            (written calls).firstAfter after tokens = .ok first ∧
            (written calls).lastAfter after tokens = .ok last ∧
            first = (found.filter (·.isAfter after)).head? ∧
            last = (found.filter (·.isAfter after)).getLast? ∧
            (first = none ↔ ∀ r ∈ found, ¬r.isAfter after) ∧
            (last = none ↔ ∀ r ∈ found, ¬r.isAfter after) := by
  have reached := reachable_written calls
  have sound := reached.sound
  refine ⟨sound.pos, sound.ascending, rfl,
    fun r => by rw [written_concat]; exact reached.write_add r, fun tokens answerable => ?_⟩
  refine ⟨_, answerable.search_eq, fun after => ⟨_, _, sound.firstAfter_eq answerable after,
    sound.lastAfter_eq answerable after, rfl, rfl, ?_, ?_⟩⟩
  · rw [List.head?_eq_none_iff, List.filter_eq_nil_iff]
  · rw [List.getLast?_eq_none_iff, List.filter_eq_nil_iff]

namespace Sample

/-- Four calls: the third is refused, and the ids have a gap. -/
def calls : List Write :=
  [.append "api" "disk full" "error" (.midnight ⟨2024, 5, 1⟩) [],
    .add ⟨7, .midnight ⟨2024, 5, 2⟩, "info", "disk cleaned", "web", []⟩,
    .add ⟨7, .midnight ⟨2024, 5, 2⟩, "info", "disk lost", "web", []⟩,
    .append "api" "disk full" "error" (.midnight ⟨2024, 5, 3⟩) []]

/-- A token that all records of the calls answer. -/
def disks : List Token := [⟨false, .term "disk"⟩]

theorem calls_answerable : (written calls).Answerable disks := by
  decide

end Sample

theorem written_reads_agree_of_gap :
    (written Sample.calls).Answerable Sample.disks ∧
      ∃ found first last, (written Sample.calls).search Sample.disks none = .ok found ∧
        (written Sample.calls).firstAfter (some 3) Sample.disks = .ok first ∧
        (written Sample.calls).lastAfter (some 3) Sample.disks = .ok last ∧
        first = (found.filter (·.isAfter (some 3))).head? ∧
        last = (found.filter (·.isAfter (some 3))).getLast? ∧
        found.map (·.id) = [1, 7, 8] ∧ first.map (·.id) = some 7 ∧ last.map (·.id) = some 8 := by
  obtain ⟨-, -, -, -, agree⟩ := written_reads_agree Sample.calls
  obtain ⟨found, hfound, ends⟩ := agree Sample.disks Sample.calls_answerable
  obtain ⟨first, last, hfirst, hlast, heads, lasts, -, -⟩ := ends (some 3)
  have ids : ((written Sample.calls).search Sample.disks none).toOption.map (·.map (·.id)) =
      some [1, 7, 8] := by
    decide
  have firstId : ((written Sample.calls).firstAfter (some 3) Sample.disks).toOption.map
      (·.map (·.id)) = some (some 7) := by
    decide
  have lastId : ((written Sample.calls).lastAfter (some 3) Sample.disks).toOption.map
      (·.map (·.id)) = some (some 8) := by
    decide
  rw [hfound] at ids
  rw [hfirst] at firstId
  rw [hlast] at lastId
  exact ⟨Sample.calls_answerable, found, first, last, hfound, hfirst, hlast, heads, lasts,
    Option.some.inj ids, Option.some.inj firstId, Option.some.inj lastId⟩

/-- **A limit of a search leaves its first records**, whatever calls have written the store.  There
are as many as the limit says, but there is one even if it says none.  So a search with a limit
yields that many of its first records exactly if the limit is positive or nothing is found. -/
theorem written_limit_iff (calls : List Write) {tokens : List Token}
    (answerable : (written calls).Answerable tokens) :
    ∃ found, (written calls).search tokens none = .ok found ∧
      ∀ k : Nat, (written calls).search tokens (some k) = .ok (found.take (max k 1)) ∧
        ((written calls).search tokens (some k) = .ok (found.take k) ↔ 0 < k ∨ found = []) := by
  refine ⟨_, answerable.search_eq, fun k => ?_⟩
  have limited : (written calls).search tokens (some k) =
      .ok (((written calls).records.filter (·.answers tokens)).take (max k 1)) :=
    Chain.select_limited (fun r hr => answerable.holdAll_eq hr) k
  refine ⟨limited, ?_⟩
  rw [limited, Except.ok.injEq]
  cases k with
  | zero => simp
  | succ k =>
    have room : max (k + 1) 1 = k + 1 := by omega
    rw [room]
    exact iff_of_true rfl (.inl (Nat.succ_pos k))

theorem written_limit_iff_of_two :
    (written Sample.calls).Answerable Sample.disks ∧
      ∃ found, (written Sample.calls).search Sample.disks none = .ok found ∧
        (written Sample.calls).search Sample.disks (some 2) = .ok (found.take 2) ∧
        (written Sample.calls).search Sample.disks (some 0) = .ok (found.take 1) := by
  obtain ⟨found, hfound, limits⟩ := written_limit_iff Sample.calls Sample.calls_answerable
  exact ⟨Sample.calls_answerable, found, hfound, (limits 2).1, (limits 0).1⟩

/-- **A limit of zero is not kept**: one record is found. -/
theorem limit_zero_finds_one :
    ¬∀ (calls : List Write) (tokens : List Token), (written calls).Answerable tokens →
      ∀ k : Nat, ∃ found, (written calls).search tokens none = .ok found ∧
        (written calls).search tokens (some k) = .ok (found.take k) := by
  intro kept
  obtain ⟨found, -, hsearch⟩ := kept Sample.calls Sample.disks Sample.calls_answerable 0
  have length : ((written Sample.calls).search Sample.disks (some 0)).toOption.map List.length =
      some 1 := by
    decide
  have none_left : (written Sample.calls).search Sample.disks (some 0) = .ok [] := hsearch
  rw [none_left] at length
  cases length

end LogStore

end LogAlert
