import LogAlert.Proofs.KeptBook
import LogAlert.Proofs.ReachableStores
import LogAlert.Proofs.World

/-!
# The tables of a book fit together

A book keeps alerts, channels, links and triggers in tables of their own, and counts the ids that
it gives.  Whatever it is asked, in whatever order and with whatever ids, the tables fit together:
every alert has links, which name stored channels once each; only alerts that are there have
triggers; and the ids of triggers are given once and ascend.

## Main definitions

* `AlertBook.WellLinked`, `AlertBook.WellNumbered` : what fits together of links and of triggers.
* `AlertBook.Consistent` : the tables of a book fit together.

## Main results

* `AlertBook.Consistent.answer`, `AlertBook.Reachable.consistent` : no request makes a book
  inconsistent.
* `AlertBook.eq_of_answer_error` : a request that fails leaves the book as it is.
* `AlertBook.rows_prefix_answer` : triggers are only added to, unless their alert is removed.
* `AlertBook.Reachable.tables_fit` : all of this for the books that requests lead to.
-/

namespace LogAlert

/-- Tables with the same keys have entries for the same keys. -/
private theorem Table.has_congr {α β : Type} {t : Table Int α} {u : Table Int β}
    (keys : t.keys = u.keys) (i : Int) : t.has i = u.has i := by
  rw [Bool.eq_iff_iff, Table.has_eq_isSome, Table.has_eq_isSome, ← Table.mem_keys,
    ← Table.mem_keys, keys]

namespace AlertBook

/-- Every alert has links and nothing else has; the links of an alert name stored channels, each of
them once. -/
structure WellLinked (b : AlertBook) : Prop where
  keys : b.links.keys = b.alerts.keys
  nodup : ∀ id, (b.linked id).Nodup
  stored : ∀ {id c}, c ∈ b.linked id → (b.channels.get? c).isSome

/-- Only alerts that are there have triggers.  The ids of triggers were given by the book; they
ascend within an alert, and no two alerts have triggers with the same id. -/
structure WellNumbered (b : AlertBook) : Prop where
  stored : ∀ {i}, (b.history.get? i).isSome → (b.alerts.get? i).isSome
  given : ∀ {i r}, r ∈ b.rows i → ∃ n, r.id = some n ∧ n < b.nextHistory
  ascend : ∀ i, (b.rows i).Pairwise fun r s => r.id.getD 0 < s.id.getD 0
  apart : ∀ {i j r s}, r ∈ b.rows i → s ∈ b.rows j → r.id = s.id → i = j

/-- The tables of a book fit together. -/
structure Consistent (b : AlertBook) : Prop where
  keyed : b.Keyed
  linked : b.WellLinked
  numbered : b.WellNumbered

variable {b b' : AlertBook}

theorem consistent_empty : empty.Consistent := by
  have linked (id : Option Int) : empty.linked id = [] := by cases id <;> rfl
  refine ⟨keyed_empty, ⟨rfl, fun id => ?_, fun {id c} h => ?_⟩,
    ⟨nofun, nofun, fun _ => .nil, nofun⟩⟩
  · rw [linked]
    exact .nil
  · rw [linked] at h
    cases h

/-! ### Links -/

/-- Alerts may be changed and channels added. -/
theorem WellLinked.congr (hb : b.WellLinked) (alerts : b'.alerts.keys = b.alerts.keys)
    (links : b'.links = b.links)
    (channels : ∀ {c}, (b.channels.get? c).isSome → (b'.channels.get? c).isSome) :
    b'.WellLinked := by
  obtain ⟨keys, nodup, stored⟩ := hb
  constructor
  · rw [links, alerts, keys]
  · unfold linked
    rwa [links]
  · unfold linked
    rw [links]
    exact fun h => channels (stored h)

/-- An alert that is stored for the first time has no links yet. -/
theorem WellLinked.store (hb : b.WellLinked) (i : Int) (a : Alert) (c : Cursor) :
    (b.store i a c).1.WellLinked where
  keys := by
    have same : b.links.has i = b.alerts.has i := Table.has_congr hb.keys i
    change Table.keys (if b.links.has i then b.links else b.links.put i []) =
      Table.keys (Table.put ..)
    rw [Table.keys_put, ← same]
    split
    · exact hb.keys
    · next absent => rw [Table.keys_put, if_neg absent, hb.keys]
  nodup id := by
    rw [linked_store]
    exact hb.nodup id
  stored h := by
    rw [linked_store] at h
    exact hb.stored h

theorem WellLinked.delete (hb : b.WellLinked) (id : Option Int) :
    (b.delete id).1.WellLinked where
  keys := by
    cases id with
    | none => exact hb.keys
    | some i =>
      change (Table.erase i b.links).keys = (Table.erase i b.alerts).keys
      rw [Table.keys_erase, Table.keys_erase, hb.keys]
  nodup other := by
    rw [linked_delete]
    split
    · exact .nil
    · exact hb.nodup other
  stored h := by
    rw [linked_delete] at h
    split at h
    · cases h
    · cases id <;> exact hb.stored h

/-- An alert that is there may be linked to any stored channels. -/
theorem WellLinked.putLinks (hb : b.WellLinked) {i : Int} (there : b.alerts.has i) {ids : List Int}
    (nodup : ids.Nodup) (stored : ∀ c ∈ ids, (b.channels.get? c).isSome) :
    { b with links := b.links.put i ids }.WellLinked where
  keys := by
    change (Table.put i ids b.links).keys = b.alerts.keys
    rw [Table.keys_put, Table.has_congr hb.keys, if_pos there, hb.keys]
  nodup id := by
    rw [linked_put]
    split
    · exact nodup
    · exact hb.nodup id
  stored h := by
    rw [linked_put] at h
    split at h
    · exact stored _ h
    · exact hb.stored h

/-- A channel that is removed is linked no more. -/
theorem WellLinked.deleteChannel (hb : b.WellLinked) (id : Option Int) :
    (b.deleteChannel id).1.WellLinked := by
  cases id with
  | none => exact hb
  | some c =>
    refine ⟨?_, fun id => ?_, fun {id d} h => ?_⟩
    · change Table.keys (b.links.map fun e => (e.1, e.2.erase c)) = b.alerts.keys
      rw [← hb.keys, Table.keys, List.map_map]
      rfl
    · rw [linked_deleteChannel]
      exact (hb.nodup id).erase c
    · rw [linked_deleteChannel, (hb.nodup id).mem_erase_iff] at h
      change (Table.get? (Table.erase c b.channels) d).isSome
      rw [Table.get?_erase_of_ne _ h.1.symm]
      exact hb.stored h.2

/-! ### Triggers -/

/-- Links and channels may be changed and alerts added. -/
theorem WellNumbered.congr (hb : b.WellNumbered) (history : b'.history = b.history)
    (nextHistory : b'.nextHistory = b.nextHistory)
    (alerts : ∀ {i}, (b.alerts.get? i).isSome → (b'.alerts.get? i).isSome) : b'.WellNumbered := by
  have rows : b'.rows = b.rows := by
    funext i
    rw [AlertBook.rows, AlertBook.rows, history]
  obtain ⟨stored, given, ascend, apart⟩ := hb
  constructor
  · rw [history]
    exact fun h => alerts (stored h)
  · rwa [rows, nextHistory]
  · rwa [rows]
  · rwa [rows]

/-- An alert is removed with its triggers. -/
theorem WellNumbered.delete (hb : b.WellNumbered) (id : Option Int) :
    (b.delete id).1.WellNumbered := by
  cases id with
  | none => exact hb
  | some i =>
    have old {j : Int} {r : History} (h : r ∈ (b.delete (some i)).1.rows j) : r ∈ b.rows j := by
      rw [rows_delete] at h
      split at h
      · cases h
      · exact h
    refine ⟨fun {j} h => ?_, fun h => hb.given (old h), fun j => ?_,
      fun hr hs => hb.apart (old hr) (old hs)⟩
    · change (Table.get? (Table.erase i b.history) j).isSome at h
      rw [Table.get?_erase] at h
      rw [get?_delete]
      split at h
      · cases h
      · next other =>
        rw [if_neg other]
        exact hb.stored h
    · rw [rows_delete]
      split
      · exact .nil
      · exact hb.ascend j

/-- A trigger under the next id is recorded after the others of its alert. -/
theorem WellNumbered.record (hb : b.WellNumbered) {i : Int} (there : b.alerts.has i) {r : History}
    (id : r.id = some b.nextHistory) :
    { b with
      history := b.history.put i (b.rows i ++ [r])
      nextHistory := b.nextHistory + 1 }.WellNumbered := by
  have rows (j : Int) : AlertBook.rows { b with
      history := b.history.put i (b.rows i ++ [r])
      nextHistory := b.nextHistory + 1 } j = if i == j then b.rows i ++ [r] else b.rows j := by
    rw [AlertBook.rows, Table.get?_put]
    split <;> rfl
  -- every trigger is one of before, or the new one
  have cases_mem {j : Int} {s : History} (h : s ∈ if i == j then b.rows i ++ [r] else b.rows j) :
      s ∈ b.rows j ∨ i = j ∧ s = r := by
    split at h
    · next same =>
      rw [eq_of_beq same] at h ⊢
      exact (List.mem_append.mp h).imp_right fun h => ⟨rfl, List.mem_singleton.mp h⟩
    · exact .inl h
  -- no trigger of before has the new id
  have fresh {j : Int} {s : History} (h : s ∈ b.rows j) (same : s.id = r.id) : False := by
    obtain ⟨n, hn, lt⟩ := hb.given h
    rw [hn, id] at same
    exact Int.ne_of_lt lt (Option.some.inj same)
  refine ⟨fun {j} h => ?_, fun {j s} h => ?_, fun j => ?_, fun {j k s t} hs ht same => ?_⟩
  · change (Table.get? (Table.put i _ b.history) j).isSome at h
    rw [Table.get?_put] at h
    split at h
    · next same =>
      rw [← eq_of_beq same]
      rwa [Table.has_eq_isSome] at there
    · exact hb.stored h
  · rw [rows] at h
    rcases cases_mem h with h | ⟨-, rfl⟩
    · obtain ⟨n, hn, lt⟩ := hb.given h
      exact ⟨n, hn, Int.lt_trans lt (Int.lt_succ b.nextHistory)⟩
    · exact ⟨b.nextHistory, id, Int.lt_succ b.nextHistory⟩
  · rw [rows]
    split
    · refine List.pairwise_append.mpr
        ⟨hb.ascend i, List.pairwise_singleton _ _, fun s hs t ht => ?_⟩
      obtain ⟨n, hn, lt⟩ := hb.given hs
      rwa [List.mem_singleton.mp ht, hn, id]
    · exact hb.ascend j
  · rw [rows] at hs ht
    rcases cases_mem hs with old | ⟨hj, new⟩
    · rcases cases_mem ht with old' | ⟨-, new'⟩
      · exact hb.apart old old' same
      · exact (fresh old (new' ▸ same)).elim
    · rcases cases_mem ht with old' | ⟨hk, -⟩
      · exact (fresh old' (new ▸ same.symm)).elim
      · exact hj.symm.trans hk

/-! ### Requests -/

theorem Consistent.save (hb : b.Consistent) (a : Alert) (resetBaseline : Bool) :
    (b.save a resetBaseline).1.Consistent := by
  have store {b : AlertBook} (hb : b.Consistent) (i : Int) (c : Cursor) :
      (b.store i a c).1.Consistent := by
    refine ⟨hb.keyed.store i a c, hb.linked.store i a c, hb.numbered.congr rfl rfl fun h => ?_⟩
    rw [get?_store]
    split
    · rfl
    · exact h
  rw [AlertBook.save]
  split
  · have counted : { b with nextAlert := b.nextAlert + 1 }.Consistent :=
      ⟨hb.keyed.congr rfl, hb.linked.congr rfl rfl id, hb.numbered.congr rfl rfl id⟩
    exact store counted ..
  · exact store hb ..

theorem Consistent.setChannels (hb : b.Consistent) (id : Option Int) (channelIds : List Int) :
    (b.setChannels id channelIds).1.Consistent := by
  rw [AlertBook.setChannels]
  split
  · exact hb
  · next i found =>
    have there := (Option.filter_eq_some_iff.mp found).2
    refine ⟨hb.keyed.congr rfl, hb.linked.putLinks there ?_ fun c hc => ?_,
      hb.numbered.congr rfl rfl fun h => h⟩
    · exact (nodup_eraseDups channelIds).filter _
    · rw [← Table.has_eq_isSome]
      exact (List.mem_filter.mp hc).2

theorem Consistent.updateCursor (hb : b.Consistent) (id : Option Int) (u : Cursor) :
    (b.updateCursor id u).1.Consistent := by
  have keyed := hb.keyed.updateCursor id u
  rw [AlertBook.updateCursor] at keyed ⊢
  split
  · exact hb
  · next i a found =>
    rw [found] at keyed
    obtain ⟨j, rfl, hj⟩ := Option.bind_eq_some_iff.mp found
    obtain ⟨a', stored, heq⟩ := Option.map_eq_some_iff.mp hj
    obtain ⟨rfl, rfl⟩ := Prod.mk.inj heq
    have there : b.alerts.has j := by rw [Table.has_eq_isSome, stored]; rfl
    refine ⟨keyed, hb.linked.congr ?_ rfl fun h => h, hb.numbered.congr rfl rfl fun {i} h => ?_⟩
    · change (Table.put j _ b.alerts).keys = b.alerts.keys
      rw [Table.keys_put, if_pos there]
    · change (Table.get? (Table.put j _ b.alerts) i).isSome
      rw [Table.get?_put]
      split
      · rfl
      · exact h

theorem Consistent.createHistory (hb : b.Consistent) (id : Option Int)
    (type data notifications : Json) (time : Moment) :
    (b.createHistory id type data notifications time).1.Consistent := by
  rw [AlertBook.createHistory]
  split
  · exact hb
  · next i found =>
    split
    · exact hb
    · exact ⟨hb.keyed.congr rfl, hb.linked.congr rfl rfl fun h => h,
        hb.numbered.record (Option.filter_eq_some_iff.mp found).2 rfl⟩

theorem Consistent.saveChannel (hb : b.Consistent) (c : Channel) :
    (b.saveChannel c).1.Consistent := by
  have put (i : Int) (c : Channel) (nextChannel : Int) :
      { b with channels := b.channels.put i c, nextChannel }.Consistent := by
    refine ⟨hb.keyed.congr rfl, hb.linked.congr rfl rfl fun {j} h => ?_,
      hb.numbered.congr rfl rfl id⟩
    change (Table.get? (Table.put i c b.channels) j).isSome
    rw [Table.get?_put]
    split
    · rfl
    · exact h
  rw [AlertBook.saveChannel]
  split
  · exact put ..
  · exact put ..

/-- **No request** makes a book inconsistent. -/
theorem Consistent.answer (hb : b.Consistent) (r : AlertRequest) : (b.answer r).2.Consistent := by
  cases r with
  | listEnabled | listAlerts | get | listHistory | getChannel | listChannels => exact hb
  | save a resetBaseline => exact hb.save a resetBaseline
  | delete id =>
    exact ⟨hb.keyed.answer (.delete id), hb.linked.delete id, hb.numbered.delete id⟩
  | setChannels id channelIds => exact hb.setChannels id channelIds
  | updateCursor a u => exact hb.updateCursor a.id u
  | createHistory a type data notifications time => exact hb.createHistory a.id ..
  | saveChannel c => exact hb.saveChannel c
  | deleteChannel id =>
    cases id with
    | none => exact hb
    | some c =>
      exact ⟨hb.keyed.congr rfl, hb.linked.deleteChannel (some c),
        hb.numbered.congr rfl rfl fun h => h⟩

theorem Reachable.consistent (reachable : b.Reachable) : b.Consistent := by
  induction reachable with
  | empty => exact consistent_empty
  | answer _ r ih => exact ih.answer r

/-- An alert that is not there is linked to nothing. -/
theorem Consistent.linked_absent (hb : b.Consistent) {i : Int} (absent : b.alerts.get? i = none) :
    b.linked (some i) = [] := by
  rw [Table.get?_eq_none, ← hb.linked.keys, ← Table.get?_eq_none] at absent
  rw [AlertBook.linked, Option.bind_some, absent]
  rfl

/-- An alert that is not there has no triggers. -/
theorem Consistent.rows_absent (hb : b.Consistent) {i : Int} (absent : b.alerts.get? i = none) :
    b.rows i = [] := by
  have none : b.history.get? i = none := by
    refine Option.not_isSome_iff_eq_none.mp fun h => ?_
    have there := hb.numbered.stored h
    rw [absent] at there
    cases there
  rw [AlertBook.rows, none]
  rfl

/-- A request that fails leaves the book as it is. -/
theorem eq_of_answer_error {r : AlertRequest} {e : Failure} (failed : (b.answer r).1 = .error e) :
    (b.answer r).2 = b := by
  cases r with
  | listEnabled | listAlerts | get | listHistory | getChannel | listChannels => rfl
  | save | delete | saveChannel | deleteChannel => cases failed
  | setChannels id channelIds =>
    change (b.setChannels id channelIds).2 = .error e at failed
    change (b.setChannels id channelIds).1 = b
    rw [AlertBook.setChannels] at failed ⊢
    split at failed
    · rfl
    · cases failed
  | updateCursor a u =>
    change (b.updateCursor a.id u).2 = .error e at failed
    change (b.updateCursor a.id u).1 = b
    rw [AlertBook.updateCursor] at failed ⊢
    split at failed
    · rfl
    · cases failed
  | createHistory a type data notifications time =>
    change (b.createHistory a.id type data notifications time).2 = .error e at failed
    change (b.createHistory a.id type data notifications time).1 = b
    rw [AlertBook.createHistory] at failed ⊢
    split at failed
    · rfl
    · split at failed
      · rfl
      · cases failed

/-! ### Triggers after a request -/

@[simp] theorem rows_save (b : AlertBook) (a : Alert) (resetBaseline : Bool) :
    (b.save a resetBaseline).1.rows = b.rows := by
  rw [save]
  split <;> rfl

@[simp] theorem rows_setChannels (b : AlertBook) (id : Option Int) (channelIds : List Int) :
    (b.setChannels id channelIds).1.rows = b.rows := by
  rw [setChannels]
  split <;> rfl

@[simp] theorem rows_saveChannel (b : AlertBook) (c : Channel) :
    (b.saveChannel c).1.rows = b.rows := by
  rw [saveChannel]
  split <;> rfl

@[simp] theorem rows_deleteChannel (b : AlertBook) (id : Option Int) :
    (b.deleteChannel id).1.rows = b.rows := by
  cases id <;> rfl

/-- A trigger is recorded after the earlier ones, if it is recorded at all. -/
theorem rows_prefix_createHistory (b : AlertBook) (id : Option Int) (type data notifications : Json)
    (time : Moment) (i : Int) :
    b.rows i <+: (b.createHistory id type data notifications time).1.rows i := by
  rw [createHistory]
  split
  · exact List.prefix_rfl
  · next j _ =>
    split
    · exact List.prefix_rfl
    · change b.rows i <+: (Table.get? (Table.put j _ b.history) i).getD []
      rw [Table.get?_put]
      split
      · next same =>
        rw [← eq_of_beq same]
        exact List.prefix_append ..
      · exact List.prefix_rfl

/-- The triggers of an alert stay as they are until the alert is removed. -/
theorem rows_prefix_answer (b : AlertBook) (r : AlertRequest) {i : Int}
    (kept : r ≠ .delete (some i)) : b.rows i <+: (b.answer r).2.rows i := by
  have unchanged {rows : List History} (h : rows = b.rows i) : b.rows i <+: rows :=
    h ▸ List.prefix_rfl
  cases r with
  | listEnabled | listAlerts | get | listHistory | getChannel | listChannels => exact unchanged rfl
  | save a resetBaseline => exact unchanged (congrFun (rows_save b a resetBaseline) i)
  | delete id =>
    cases id with
    | none => exact unchanged rfl
    | some j =>
      have other : j ≠ i := fun same => kept (same ▸ rfl)
      exact unchanged ((rows_delete b j i).trans (if_neg (mt beq_iff_eq.mp other)))
  | setChannels id channelIds => exact unchanged (congrFun (rows_setChannels b id channelIds) i)
  | updateCursor a u => exact unchanged (congrFun (rows_updateCursor b a.id u) i)
  | createHistory a => exact rows_prefix_createHistory b a.id ..
  | saveChannel c => exact unchanged (congrFun (rows_saveChannel b c) i)
  | deleteChannel id => exact unchanged (congrFun (rows_deleteChannel b id) i)

/-- **The tables of a book fit together**, whatever it was asked before: every alert has links, to
stored channels and to each of them once, and only alerts that are there have triggers, whose ids
ascend and are given once.  Whatever it is asked next, it stays as it is if the request fails, and
the triggers of an alert are only added to unless the alert is removed. -/
theorem Reachable.tables_fit (reachable : b.Reachable) :
    b.Consistent ∧ ∀ r : AlertRequest,
      (∀ e, (b.answer r).1 = .error e → (b.answer r).2 = b) ∧
        ∀ i, r ≠ .delete (some i) → b.rows i <+: (b.answer r).2.rows i :=
  ⟨reachable.consistent, fun r =>
    ⟨fun _ failed => eq_of_answer_error failed, fun _ kept => rows_prefix_answer b r kept⟩⟩

namespace Sample

open LogAlert.Sample (alert noon)

/-- A channel without an id. -/
def operators : Channel where
  type := .str "slack"
  name := .str "operators"
  config := .obj []
  enabled := .bool true
  ownerId := .null
  id := none

/-- Two alerts that have triggered in turn, the first of them linked to a channel. -/
def busy : AlertBook :=
  List.foldl (fun b r => (b.answer r).2) .empty
    [.saveChannel operators, .save alert false, .save alert false,
      .setChannels (some 1) [1, 7, 1],
      .createHistory { alert with id := some 1 } (.str "any_match") .null .null noon,
      .createHistory { alert with id := some 2 } (.str "any_match") .null .null noon,
      .createHistory { alert with id := some 1 } (.str "any_match") .null .null noon]

end Sample

open AlertBook.Sample in
/-- The triggers of two alerts are numbered together.  Removing the first alert keeps those of the
second, and a request about an alert that is not there changes nothing. -/
theorem Reachable.tables_fit_of_busy :
    busy.Reachable ∧ busy.links = [(1, [1]), (2, [])] ∧
      (busy.rows 1).map (·.id) = [some 1, some 3] ∧ (busy.rows 2).map (·.id) = [some 2] ∧
      busy.Consistent ∧ busy.rows 2 <+: (busy.answer (.delete (some 1))).2.rows 2 ∧
      (busy.answer (.setChannels (some 3) [1])).2 = busy := by
  have reachable : busy.Reachable :=
    .answer (.answer (.answer (.answer (.answer (.answer (.answer .empty _) _) _) _) _) _) _
  obtain ⟨consistent, answers⟩ := reachable.tables_fit
  refine ⟨reachable, rfl, rfl, rfl, consistent, (answers (.delete (some 1))).2 2 nofun, ?_⟩
  exact (answers (.setChannels (some 3) [1])).1 _ rfl

end AlertBook

end LogAlert
