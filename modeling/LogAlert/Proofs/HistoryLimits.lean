import LogAlert.Proofs.Consistency
import LogAlert.Proofs.SlotEffects

/-!
# The latest triggers of an alert

A store is asked for the latest triggers of an alert, up to a limit.  Whatever it was asked before,
the triggers of an alert are those that it answered to have recorded since the alert was last
removed.  A book whose triggers ascend in time answers with the last of them, the latest first, up
to any limit.  A store in a key-value server asks for the items from minus the limit on, and counts
from the end only if the limit is positive: the limit zero means all items.

## Main definitions

* `keptRows` : the triggers of an alert that remain after some calls.

## Main results

* `AlertBook.recorded_answer` : the triggers in a book after a request.
* `AlertStore.history_follows` : the triggers on a server after any calls.
* `latest_rows` : what either store answers to a request for the latest triggers.
-/

namespace LogAlert

open KeyValue AlertStore
open Simulation (Server)
open Simulation.Server

/-! ### Triggers that remain -/

/-- The triggers of an alert after a call: one more if one was recorded, and none if the alert was
removed. -/
def rowsAfter (id : Option Int) (rows : List History) : Call Alerts → List History
  | ⟨.createHistory a _ _ _ _, .ok row⟩ => if a.id = id then rows ++ [row] else rows
  | ⟨.delete other, .ok _⟩ => if other = id then [] else rows
  | _ => rows

/-- The triggers of an alert that remain after some calls, in the order in which they were
recorded. -/
def keptRows (id : Option Int) (past : List (Call Alerts)) : List History :=
  past.foldl (rowsAfter id) []

variable {id : Option Int} {past : List (Call Alerts)} {b : AlertBook} {st : AlertStore}
  {s : Server}

theorem keptRows_append_singleton (call : Call Alerts) :
    keptRows id (past ++ [call]) = rowsAfter id (keptRows id past) call := by
  rw [keptRows, List.foldl_append]
  rfl

/-- A call that fails leaves the triggers. -/
theorem rowsAfter_error (rows : List History) (r : AlertRequest) (e : Failure) :
    rowsAfter id rows ⟨r, .error e⟩ = rows := by
  cases r <;> rfl

/-! ### In a book -/

namespace AlertBook

theorem recorded_eq_rows (b : AlertBook) (id : Option Int) :
    b.recorded id = (id.map b.rows).getD [] := by
  cases id <;> rfl

/-- **The triggers in a book** after a request are those that remain after the call. -/
theorem recorded_answer (b : AlertBook) (r : AlertRequest) (id : Option Int) :
    (b.answer r).2.recorded id = rowsAfter id (b.recorded id) ⟨r, (b.answer r).1⟩ := by
  have unchanged {b' : AlertBook} (h : b'.rows = b.rows) : b'.recorded id = b.recorded id := by
    rw [recorded_eq_rows, recorded_eq_rows, h]
  cases r with
  | listEnabled | listAlerts | get | listHistory | getChannel | listChannels => rfl
  | save a resetBaseline => exact unchanged (rows_save b a resetBaseline)
  | setChannels other channelIds => exact unchanged (rows_setChannels b other channelIds)
  | updateCursor a u => exact unchanged (rows_updateCursor b a.id u)
  | saveChannel c => exact unchanged (rows_saveChannel b c)
  | deleteChannel c => exact unchanged (rows_deleteChannel b c)
  | delete other =>
    exact (recorded_delete b other id).trans (if_congr eq_comm rfl rfl)
  | createHistory a type data notifications time =>
    change (b.createHistory a.id type data notifications time).1.recorded id = rowsAfter id
      (b.recorded id) ⟨.createHistory a type data notifications time,
        (b.createHistory a.id type data notifications time).2⟩
    rw [createHistory]
    split
    · rfl
    · next i found =>
      have hid : a.id = some i := (Option.filter_eq_some_iff.mp found).1
      split
      · rfl
      · rw [recorded_put, rowsAfter, hid]
        by_cases own : id = some i
        · rw [if_pos own, if_pos own.symm, own]
          rfl
        · rw [if_neg own, if_neg (Ne.symm own)]

theorem recorded_of_dialogue
    (dialogue : Dialogue (I := Alerts) (fun r b => b.answer r) .empty past b) (id : Option Int) :
    b.recorded id = keptRows id past := by
  induction dialogue with
  | start => cases id <;> rfl
  | next _ r ih => rw [keptRows_append_singleton, ← ih, recorded_answer]

theorem reachable_of_dialogue
    (dialogue : Dialogue (I := Alerts) (fun r b => b.answer r) .empty past b) : b.Reachable := by
  induction dialogue with
  | start => exact .empty
  | next _ r ih => exact .answer ih r

/-- A book answers with the last triggers if they ascend in time. -/
theorem listHistory_of_dialogue
    (dialogue : Dialogue (I := Alerts) (fun r b => b.answer r) .empty past b) (id : Option Int)
    (limit : Nat) (ascend : (keptRows id past).Pairwise fun r s =>
      r.triggeredAt.atMost? s.triggeredAt = some true) :
    b.listHistory id limit = .ok ((keptRows id past).reverse.take limit) := by
  have numbered := (reachable_of_dialogue dialogue).consistent.numbered
  have ids : (b.recorded id).Pairwise fun r s => r.id.getD 0 < s.id.getD 0 := by
    cases id with
    | none => exact .nil
    | some i => exact numbered.ascend i
  rw [← recorded_of_dialogue dialogue id] at ascend ⊢
  have times : (b.recorded id).Pairwise fun r s =>
      r.triggeredAt.comparable s.triggeredAt = true ∧
        r.triggeredAt.instant ≤ s.triggeredAt.instant := by
    refine ascend.imp fun {r s} h => ?_
    rw [Moment.atMost?] at h
    split at h
    · next comparable => exact ⟨comparable, of_decide_eq_true (Option.some.inj h)⟩
    · cases h
  have precede : (b.recorded id).Pairwise Precedes :=
    times.imp₂ (fun _ _ time id => ⟨time.2, id⟩) ids
  refine listHistory_of_ascend precede (fun r hr s hs => ?_) (Int.natCast_nonneg limit)
  have : Std.Symm fun r s : History => r.triggeredAt.comparable s.triggeredAt = true :=
    ⟨fun _ _ h => beq_iff_eq.mpr (beq_iff_eq.mp h).symm⟩
  refine List.Pairwise.forall_of_forall (fun r _ => ?_) (times.imp And.left) hr hs
  rw [Moment.comparable, beq_self_eq_true]

end AlertBook

/-! ### On a server -/

namespace KeyValue.AlertStore

/-- **The triggers on a server** are those that remain after the calls, as documents. -/
theorem history_follows (dialogue : Dialogue (I := Alerts) st.answer .empty past s)
    (id : Option Int) :
    ∃ db, s = ⟨db, []⟩ ∧
      st.view db (.history id) = textList ((keptRows id past).map History.encode) := by
  refine slot_follows (P := fun past x => x = textList ((keptRows id past).map History.encode))
    dialogue rfl (fun past r => ?_) fun past r e x holds => ?_
  · by_cases touches : r.Touches (.history id)
    · cases r with
      | delete other =>
        obtain rfl : other = id := by simpa [AlertRequest.Touches, eq_comm] using touches
        refine (turns_delete (by simp)).imp fun existed x y gone _ => ?_
        rw [keptRows_append_singleton, rowsAfter, if_pos rfl, gone]
        rfl
      | createHistory a =>
        obtain rfl : a.id = id := by simpa [AlertRequest.Touches, eq_comm] using touches
        refine turns_createHistory.imp fun row x y pushed holds => ?_
        rw [keptRows_append_singleton, rowsAfter, if_pos rfl, List.map_append, pushed _ holds]
        rfl
      | _ => simp [AlertRequest.Touches] at touches
    · have kept (a : r.Answer) : keptRows id (past ++ [⟨r, .ok a⟩]) = keptRows id past := by
        rw [keptRows_append_singleton]
        cases r with
        | delete other =>
          exact if_neg fun own => touches (by simp [AlertRequest.Touches, own])
        | createHistory a =>
          exact if_neg fun own => touches (by simp [AlertRequest.Touches, own])
        | _ => rfl
      refine (leaves_serve touches).imp fun a x y same holds => ?_
      rw [kept, same, holds]
  · rwa [keptRows_append_singleton, rowsAfter_error]

/-- The items from minus a limit on, the last one first. -/
theorem reverse_rangeOf_natCast (limit : Nat) (items : List String) :
    (rangeOf (-limit) (-1) items).reverse =
      if limit = 0 then items.reverse else items.reverse.take limit := by
  split
  · next zero =>
    subst zero
    rw [rangeOf]
    simp
  · next pos => exact reverse_rangeOf (by omega) items

/-- A server answers with the last triggers, and with all of them if the limit is zero. -/
theorem listHistory_of_dialogue (dialogue : Dialogue (I := Alerts) st.answer .empty past s)
    (id : Option Int) (limit : Nat) :
    (st.answer (.listHistory id limit) s).1 =
      (if limit = 0 then (keptRows id past).reverse
        else (keptRows id past).reverse.take limit).mapM fun r => History.decode r.encode := by
  obtain ⟨db, rfl, hview⟩ := history_follows dialogue id
  have hread := ends_read_range hview (-limit) (-1)
  have hends : Ends (st.listHistory id limit) db _ db :=
    (ends_begins _).bind ((hread.guarded _).bind (ends_ofExcept _))
  refine (congrArg Prod.fst hends).trans ?_
  rw [reverse_rangeOf_natCast, ← List.map_reverse, ← List.map_take, ← apply_ite (List.map _),
    List.mapM_map]
  rfl

/-- The answers to admitted requests leave the same triggers as in a book. -/
theorem Agrees.rows_eq {rs : List AlertRequest} (agrees : st.Agrees b s rs) (id : Option Int)
    (rows : List History) :
    (exchange (I := Alerts) st.answer rs s).1.foldl (rowsAfter id) rows =
      (exchange (I := Alerts) (fun r b => b.answer r) rs b).1.foldl (rowsAfter id) rows := by
  have congr (rows : List History) {r : AlertRequest} {x y : Except Failure r.Answer}
      (same : r.SameAnswer x y) : rowsAfter id rows ⟨r, x⟩ = rowsAfter id rows ⟨r, y⟩ := by
    cases r with
    | createHistory | delete =>
      obtain rfl : x = y := same
      rfl
    | _ => rfl
  induction rs generalizing b s rows with
  | nil => rfl
  | cons r rs ih =>
    rw [exchange, exchange, List.foldl_cons, List.foldl_cons, congr rows agrees.1]
    exact ih agrees.2 _

end KeyValue.AlertStore

/-! ### Both stores -/

/-- Triggers that are read back one by one are read back together. -/
theorem mapM_decode {rows : List History} (back : ∀ r ∈ rows, History.decode r.encode = .ok r) :
    rows.mapM (fun r => History.decode r.encode) = .ok rows := by
  have each : (rows.map History.encode).mapM History.decode = .ok (rows.map fun r => r) :=
    mapM_ok back
  rwa [List.mapM_map, List.map_id'] at each

/-- **The latest triggers.**  Whatever the stores were asked before, a book in which the triggers of
an alert ascend in time answers with the last of them up to the limit, the latest first.  A server
answers with the same, read from the documents, unless the limit is zero: then it answers with all
triggers, and not with none. -/
theorem latest_rows (st : AlertStore) (id : Option Int) (limit : Nat) :
    (∀ past b, Dialogue (I := Alerts) (fun r b => b.answer r) AlertBook.empty past b →
      (keptRows id past).Pairwise (fun r s => r.triggeredAt.atMost? s.triggeredAt = some true) →
        (b.answer (.listHistory id limit)).1 = .ok ((keptRows id past).reverse.take limit)) ∧
      ∀ past s, Dialogue (I := Alerts) st.answer .empty past s →
        (st.answer (.listHistory id limit) s).1 =
          (if limit = 0 then (keptRows id past).reverse
            else (keptRows id past).reverse.take limit).mapM (fun r => History.decode r.encode) ∧
        ((∀ r ∈ keptRows id past, History.decode r.encode = .ok r) →
          ((st.answer (.listHistory id limit) s).1 = .ok ((keptRows id past).reverse.take limit) ↔
            limit ≠ 0 ∨ keptRows id past = [])) := by
  refine ⟨fun past b dialogue ascend => AlertBook.listHistory_of_dialogue dialogue id limit ascend,
    fun past s dialogue => ?_⟩
  have answered := AlertStore.listHistory_of_dialogue dialogue id limit
  refine ⟨answered, fun back => ?_⟩
  rw [answered]
  split
  · next zero =>
    rw [mapM_decode fun r hr => back r (List.mem_reverse.mp hr), zero, List.take_zero,
      Except.ok.injEq, List.reverse_eq_nil_iff]
    exact (or_iff_right (not_not.mpr rfl)).symm
  · next pos =>
    rw [mapM_decode fun r hr => back r (List.mem_reverse.mp (List.mem_of_mem_take hr))]
    exact iff_of_true rfl (.inl pos)

namespace KeyValue.AlertStore.Sample

/-- Some time after noon. -/
def evening : Moment := ⟨63890030000000000, some 0⟩

/-- An alert that triggers twice. -/
def twice : List AlertRequest :=
  [.save alert false,
    .createHistory { alert with id := some 1 } (.str "any_match") .null (.arr []) noon,
    .createHistory { alert with id := some 1 } (.str "any_match") .null (.arr []) evening]

/-- A trigger of the alert. -/
def row (n : Int) (time : Moment) : History where
  id := some n
  alertId := some 1
  type := .anyMatch
  data := .null
  notifications := .arr []
  triggeredAt := time

/-- What a book is asked and answers. -/
def bookTwice : List (Call Alerts) × AlertBook :=
  exchange (I := Alerts) (fun r b => b.answer r) twice .empty

/-- What a server is asked and answers. -/
def serverTwice : List (Call Alerts) × Server :=
  exchange (I := Alerts) store.answer twice .empty

theorem bookTwice_dialogue :
    Dialogue (I := Alerts) (fun r b => b.answer r) .empty bookTwice.1 bookTwice.2 :=
  dialogue_exchange (I := Alerts) twice

theorem serverTwice_dialogue :
    Dialogue (I := Alerts) store.answer .empty serverTwice.1 serverTwice.2 :=
  dialogue_exchange (I := Alerts) twice

theorem storable_evening : evening.Storable where
  range := by decide
  offset := ⟨⟨by decide, by decide⟩, .inl rfl⟩

theorem twice_admitted : AlertBook.empty.AdmitsAll twice := by
  refine ⟨?_, ?_, ?_, trivial⟩
  · exact ⟨⟨⟨.anyMatch, rfl⟩, by decide⟩, Cursor.storable_empty, nofun, fun _ => by decide⟩
  · exact ⟨⟨.anyMatch, rfl⟩, by decide, by decide, storable_noon, rfl, nofun, by decide⟩
  · exact ⟨⟨.anyMatch, rfl⟩, by decide, by decide, storable_evening, rfl, by decide, by decide⟩

theorem keptRows_bookTwice : keptRows (some 1) bookTwice.1 = [row 1 noon, row 2 evening] := rfl

theorem keptRows_serverTwice : keptRows (some 1) serverTwice.1 = [row 1 noon, row 2 evening] :=
  ((mirrors_empty store).agrees (by decide) AlertBook.storable_empty twice_admitted).rows_eq _ []

theorem decode_encode_row {time : Moment} (n : Int) (storable : time.Storable)
    (hn : (Json.int n).isStorable) : History.decode (row n time).encode = .ok (row n time) := by
  refine History.decode_encode ⟨storable, ?_⟩
  simp only [row, List.forall_mem_cons]
  exact ⟨hn, by decide, by decide, by decide, nofun⟩

theorem decode_encode_rows :
    ∀ r ∈ [row 1 noon, row 2 evening], History.decode r.encode = .ok r := by
  simp only [List.forall_mem_cons]
  exact ⟨decode_encode_row 1 storable_noon (by decide),
    decode_encode_row 2 storable_evening (by decide), nofun⟩

end KeyValue.AlertStore.Sample

open KeyValue.AlertStore.Sample in
/-- The later of two triggers. -/
theorem latest_rows_of_twice :
    (bookTwice.2.answer (.listHistory (some 1) 1)).1 = .ok [row 2 evening] ∧
      (store.answer (.listHistory (some 1) 1) serverTwice.2).1 = .ok [row 2 evening] := by
  obtain ⟨inBook, onServer⟩ := latest_rows store (some 1) 1
  refine ⟨?_, ?_⟩
  · refine inBook _ _ bookTwice_dialogue ?_
    rw [keptRows_bookTwice]
    decide
  · have answered := (onServer _ _ serverTwice_dialogue).2
    rw [keptRows_serverTwice] at answered
    exact (answered decode_encode_rows).mpr (.inl (by decide))

open KeyValue.AlertStore.Sample in
/-- With the limit zero a server answers with all triggers. -/
theorem limit_zero_lists_all :
    Dialogue (I := Alerts) store.answer .empty serverTwice.1 serverTwice.2 ∧
      (keptRows (some 1) serverTwice.1).Pairwise
        (fun r s => r.triggeredAt.atMost? s.triggeredAt = some true) ∧
      (store.answer (.listHistory (some 1) 0) serverTwice.2).1 =
        .ok [row 2 evening, row 1 noon] ∧
      (store.answer (.listHistory (some 1) 0) serverTwice.2).1 ≠
        .ok ((keptRows (some 1) serverTwice.1).reverse.take 0) := by
  have answered : (store.answer (.listHistory (some 1) 0) serverTwice.2).1 =
      .ok [row 2 evening, row 1 noon] := by
    refine (AlertStore.listHistory_of_dialogue serverTwice_dialogue (some 1) 0).trans ?_
    rw [if_pos rfl, keptRows_serverTwice]
    exact mapM_decode fun r hr => decode_encode_rows r (List.mem_reverse.mp hr)
  refine ⟨serverTwice_dialogue, ?_, answered, ?_⟩
  · rw [keptRows_serverTwice]
    decide
  · rw [answered, List.take_zero]
    exact fun h => List.cons_ne_nil _ _ (Except.ok.inj h)

end LogAlert
