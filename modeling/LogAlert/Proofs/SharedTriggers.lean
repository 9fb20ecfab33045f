import LogAlert.Proofs.SharedProgress
import LogAlert.Proofs.StoreAgreement

/-!
# Triggers are recorded once, and nothing is left of removed alerts

Any number of clients save and remove alerts, move their cursors and record their triggers at the
same time.  In every state no cursor and no trigger is left of an alert that is gone.  Recording a
trigger that is answered has written a single row, and one that failed has written none; and no id
is given to two rows.

## Main definitions

* `Shared.RecordsOnce` : what holds of the triggers up to a state.

## Main results

* `History.id_eq_of_encode` : the id of a row can be read from its text.
* `Shared.Reachable.ticks_ascend` : ids are given in ascending order.
* `Shared.Reachable.records_once` : the triggers of any clients.
-/

namespace LogAlert

namespace Json

theorem writeChars_some (n : Int) : (ofInt? (some n)).writeChars = intText n := by
  rw [ofInt?, writeChars]

theorem comma_not_mem_ofInt (id : Option Int) : ',' ∉ (ofInt? id).writeChars := by
  cases id with
  | none => decide
  | some n =>
    rw [writeChars_some]
    intro h
    rcases intText_chars n _ h with h | h
    · exact absurd h (by decide)
    · exact absurd h (by decide)

theorem writeChars_ofInt_injective : Function.Injective fun id => (ofInt? id).writeChars := by
  have hnone (n : Int) : (ofInt? none).writeChars ≠ (ofInt? (some n)).writeChars := by
    intro h
    rw [writeChars_some] at h
    rcases intText_chars n 'n' (h ▸ by decide) with h | h
    · exact absurd h (by decide)
    · exact absurd h (by decide)
  intro i j h
  cases i with
  | none =>
    cases j with
    | none => rfl
    | some n => exact absurd h (hnone n)
  | some m =>
    cases j with
    | none => exact absurd h.symm (hnone m)
    | some n =>
      dsimp only at h
      rw [writeChars_some, writeChars_some] at h
      rw [intText_injective h]

end Json

/-- The id of a row is what its text has before the first comma. -/
theorem History.id_eq_of_encode {r r' : History} (h : r.encode = r'.encode) : r.id = r'.id := by
  have start (v : Json) (f : String × Json) (fs : Json.Fields) :
      (Json.obj (("id", v) :: f :: fs)).writeChars =
        '\x7b' :: (Json.writeText "id" ++ ':' :: ' ' :: (v.writeChars ++
          ',' :: ' ' :: (Json.writeFields (f :: fs) ++ ['\x7d']))) := by
    rw [Json.writeChars, Json.writeFields, List.isEmpty_cons, if_neg Bool.false_ne_true]
    simp only [List.append_assoc, List.cons_append]
  have hchars := congrArg String.toList h
  rw [encode, encode, Json.write, Json.write, String.toList_ofList, String.toList_ofList, start,
    start] at hchars
  have hrest := List.append_cancel_left (List.cons.inj hchars).2
  have hfirst := congrArg (List.takeWhile (· != ',')) (List.cons.inj (List.cons.inj hrest).2).2
  have plain (id : Option Int) : ∀ c ∈ (Json.ofInt? id).writeChars, (c != ',') = true :=
    fun c hc => bne_iff_ne.mpr fun heq => Json.comma_not_mem_ofInt id (heq ▸ hc)
  rw [List.takeWhile_append_of_pos (plain _), List.takeWhile_append_of_pos (plain _)] at hfirst
  exact Json.writeChars_ofInt_injective (by simpa using hfirst)

namespace KeyValue

open AlertStore

variable {st : AlertStore}

/-! ### The rows of one client -/

/-- An id that is given is no row that is written. -/
theorem Applied.Ticks.not_records {e : Applied} {n : Int} (h : e.Ticks st n) (id : Option Int)
    (row : History) : ¬e.Records st id row := by
  intro records
  have := h.commands.symm.trans records.commands
  simp at this

namespace Recorded

variable {id : Option Int} {row : Option History} {es : List Applied}

/-- Whatever a client has applied gives an id, or writes a row with an id that was given to it. -/
theorem tick_or_row (h : Recorded st id row es) {e : Applied} (he : e ∈ es) :
    (∃ n, e.Ticks st n) ∨
      ∃ row, e.Records st id row ∧ ∃ t ∈ es, ∃ n, t.Ticks st n ∧ row.id = some n := by
  cases h with
  | ticks ticks => exact .inl (ticks e he)
  | @row es last push n row ticks tick hid pushed =>
    rcases List.mem_append.mp he with he | he
    · exact .inl (ticks e he)
    rcases List.mem_pair.mp he with rfl | rfl
    · exact .inl ⟨n, tick⟩
    · exact .inr ⟨row, pushed, last, by simp, n, tick, hid⟩

/-- A row that a client has written has an id that was given to the same client. -/
theorem id_given (h : Recorded st id row es) {e : Applied} (he : e ∈ es) {id' : Option Int}
    {row' : History} (records : e.Records st id' row') :
    ∃ t ∈ es, ∃ n, t.Ticks st n ∧ row'.id = some n := by
  rcases h.tick_or_row he with ⟨n, tick⟩ | ⟨row, pushed, t, ht, n, tick, hid⟩
  · exact absurd records (tick.not_records _ _)
  · have hcommands := records.commands.symm.trans pushed.commands
    simp only [List.cons.injEq, Write.push.injEq, and_true] at hcommands
    exact ⟨t, ht, n, tick, (History.id_eq_of_encode hcommands.2).trans hid⟩

/-- All that a client writes to the triggers of an alert are rows. -/
theorem exists_row (h : Recorded st id row es) {e : Applied} (he : e ∈ es) {id' : Option Int}
    {item : String} (hpush : .push (st.slotKey (.history id')) item ∈ e.commands) :
    ∃ row, e.Records st id' row := by
  rcases h.tick_or_row he with ⟨n, tick⟩ | ⟨row, pushed, -⟩
  · rw [tick.commands] at hpush
    simp at hpush
  · have hcommand := hpush
    rw [pushed.commands, List.mem_singleton, Write.push.injEq, slotKey_inj, Slot.history.injEq]
      at hcommand
    obtain rfl := hcommand.1
    exact ⟨row, pushed⟩

/-- A client does nothing more after it has written a row. -/
theorem row_last (h : Recorded st id row es) :
    es.Pairwise fun e _ => ∀ id row, ¬e.Records st id row := by
  cases h with
  | ticks ticks =>
    refine List.pairwise_of_forall_mem_list fun e he _ _ => ?_
    obtain ⟨n, tick⟩ := ticks e he
    exact tick.not_records
  | @row es last push n row ticks tick hid pushed =>
    have early : ∀ e ∈ es ++ [last], ∀ id row, ¬e.Records st id row := by
      intro e he
      rcases List.mem_append.mp he with he | he
      · obtain ⟨n, tick⟩ := ticks e he
        exact tick.not_records
      · exact List.mem_singleton.mp he ▸ tick.not_records
    rw [List.append_cons]
    refine List.pairwise_append.mpr ⟨List.pairwise_of_forall_mem_list fun e he _ _ => early e he,
      List.pairwise_singleton _ _, fun e he _ _ => early e he⟩

end Recorded

/-! ### The rows of all clients -/

namespace Shared

/-- Ids are given in ascending order, all above the last one given before. -/
theorem Leads.ticks_ascend {db db' : Database} {es : List Entry} (leads : Leads db es db')
    (lawful : ∀ e ∈ es, Lawful st e.request e.applied) :
    (∀ e ∈ es, ∀ n, e.applied.Ticks st n → st.lastRow db < n) ∧
      es.Pairwise fun e e' =>
        ∀ n m, e.applied.Ticks st n → e'.applied.Ticks st m → n < m := by
  induction es generalizing db with
  | nil => exact ⟨List.forall_mem_nil _, List.Pairwise.nil⟩
  | cons e es ih =>
    obtain ⟨first, rest⟩ := List.forall_mem_cons.mp lawful
    obtain ⟨rfl, leads⟩ := leads
    obtain ⟨above, ascend⟩ := ih leads rest
    have grows : st.lastRow e.applied.before ≤ st.lastRow e.applied.after := by
      rcases first.counts with same | ⟨n, tick⟩
      · exact Int.le_of_eq same.symm
      · rw [tick.before, tick.after]
        omega
    refine ⟨List.forall_mem_cons.mpr ⟨fun n tick => ?_, fun e' he' n tick => ?_⟩,
      .cons (fun e' he' n m tick tick' => ?_) ascend⟩
    · rw [tick.before]
      omega
    · exact Int.lt_of_le_of_lt grows (above e' he' n tick)
    · exact tick.after ▸ above e' he' m tick'

variable {s : Shared}

/-- **Ids are given in ascending order**, whoever asks for them. -/
theorem Reachable.ticks_ascend (h : s.Reachable st) :
    s.journal.Pairwise fun e e' =>
      ∀ n m, e.applied.Ticks st n → e'.applied.Ticks st m → n < m :=
  (h.leads.ticks_ascend fun _ => h.lawful).2

theorem Reachable.tick_unique (h : s.Reachable st) {t t' : Entry} (ht : t ∈ s.journal)
    (ht' : t' ∈ s.journal) {n : Int} (tick : t.applied.Ticks st n)
    (tick' : t'.applied.Ticks st n) : t = t' := by
  obtain ⟨p, hp, rfl⟩ := List.mem_iff_getElem.mp ht
  obtain ⟨q, hq, rfl⟩ := List.mem_iff_getElem.mp ht'
  have ascend := List.pairwise_iff_getElem.mp h.ticks_ascend
  rcases Nat.lt_trichotomy p q with before | rfl | after
  · exact absurd (ascend p q hp hq before n n tick tick') (Int.lt_irrefl n)
  · rfl
  · exact absurd (ascend q p hq hp after n n tick' tick) (Int.lt_irrefl n)

/-- What the client of an entry has applied, if it records a trigger. -/
theorem Reachable.recorded (h : s.Reachable st) {e : Entry} (he : e ∈ s.journal)
    (recording : IsRecording e.request) :
    e.applied ∈ s.appliedBy e.session ∧
      ∃ id row, Recorded st id row (s.appliedBy e.session) := by
  have kept := (fulfilled_storeContract st).kept h
  obtain ⟨c, here, hrequest⟩ := kept.known e he
  obtain ⟨_, _, _, _, _, ⟨-, recorded⟩, -⟩ := kept.holds _ c here
  refine ⟨List.mem_map_of_mem (List.mem_filter.mpr ⟨he, beq_self_eq_true _⟩), ?_⟩
  cases hcreate : e.request with
  | createHistory a type data notifications time =>
    obtain ⟨row, hrow⟩ := recorded a type data notifications time (hrequest.trans hcreate)
    exact ⟨a.id, row, hrow⟩
  | _ =>
    rw [hcreate] at recording
    exact recording.elim

/-- Only recording a trigger writes a row. -/
theorem Reachable.recording_of_records (h : s.Reachable st) {e : Entry} (he : e ∈ s.journal)
    {id : Option Int} {row : History} (records : e.applied.Records st id row) :
    IsRecording e.request := by
  refine (h.lawful he).records id row.encode ?_
  rw [records.commands]
  exact List.mem_singleton_self _

/-- The id of a row was given to the client that wrote it. -/
theorem Reachable.id_given (h : s.Reachable st) {e : Entry} (he : e ∈ s.journal)
    {id : Option Int} {row : History} (records : e.applied.Records st id row) :
    ∃ t ∈ s.journal, t.session = e.session ∧ ∃ n, t.applied.Ticks st n ∧ row.id = some n := by
  obtain ⟨hmem, id', row', recorded⟩ := h.recorded he (h.recording_of_records he records)
  obtain ⟨a, ha, n, tick, hid⟩ := recorded.id_given hmem records
  obtain ⟨t, ht, rfl⟩ := List.mem_map.mp ha
  obtain ⟨ht, hsession⟩ := List.mem_filter.mp ht
  exact ⟨t, ht, eq_of_beq hsession, n, tick, hid⟩

/-- **No id is given to two rows.** -/
theorem Reachable.rows_distinct (h : s.Reachable st) :
    s.journal.Pairwise fun e e' => ∀ id row id' row', e.applied.Records st id row →
      e'.applied.Records st id' row' → row.id ≠ row'.id := by
  rw [List.pairwise_iff_forall_sublist]
  intro e e' sub id row id' row' records records' same
  have he : e ∈ s.journal := sub.subset List.mem_cons_self
  have he' : e' ∈ s.journal := sub.subset (List.mem_cons_of_mem _ (List.mem_singleton_self _))
  by_cases hsession : e'.session = e.session
  · -- one client writes one row
    obtain ⟨-, _, _, recorded⟩ := h.recorded he (h.recording_of_records he records)
    have last := List.pairwise_filter.mp (List.pairwise_map.mp recorded.row_last)
    exact List.pairwise_iff_forall_sublist.mp last sub (beq_self_eq_true _)
      (beq_iff_eq.mpr hsession) id row records
  · -- the ids were given to two clients
    obtain ⟨t, ht, htsession, n, tick, hid⟩ := h.id_given he records
    obtain ⟨t', ht', htsession', m, tick', hid'⟩ := h.id_given he' records'
    obtain rfl : n = m := Option.some.inj (hid.symm.trans (same.trans hid'))
    obtain rfl := h.tick_unique ht ht' tick tick'
    exact hsession (htsession'.symm.trans htsession)

/-- Triggers are recorded once, and nothing is left of removed alerts. -/
structure RecordsOnce (st : AlertStore) (s : Shared) : Prop where
  /-- The set of alerts lists the alerts that are there, and no cursor and no trigger is left of
  another one. -/
  tidy : st.Tidy s.data
  /-- Recording a trigger that was answered has written the row of the answer, and no other. -/
  answered : ∀ i a type data notifications time row watched lost,
    s.sessions[i]? = some ⟨.createHistory a type data notifications time, .done (.ok row),
        watched, lost⟩ →
      Recorded st a.id (some row) (s.appliedBy i) ∧ ∃ t, AlertType.ofJson type = .ok t ∧
        row = { id := row.id, alertId := a.id, type := t, data, notifications,
                triggeredAt := time }
  /-- Recording a trigger that failed has written no row. -/
  failed : ∀ i a type data notifications time f watched lost,
    s.sessions[i]? = some ⟨.createHistory a type data notifications time, .done (.error f),
        watched, lost⟩ →
      Recorded st a.id none (s.appliedBy i)
  /-- All that is written to the triggers of an alert are such rows. -/
  written : ∀ e ∈ s.journal, ∀ id item,
    .push (st.slotKey (.history id)) item ∈ e.applied.commands →
      ∃ row, e.applied.Records st id row
  /-- No two of them have the same id. -/
  distinct : s.journal.Pairwise fun e e' => ∀ id row id' row', e.applied.Records st id row →
    e'.applied.Records st id' row' → row.id ≠ row'.id
  /-- What was applied leads from data to data up to the present ones. -/
  leads : Leads [] s.journal s.data

/-- **Triggers are recorded once, and nothing is left of removed alerts**, in any state that comes
of the steps of any number of clients. -/
theorem Reachable.records_once (h : s.Reachable st) : s.RecordsOnce st where
  tidy := ((fulfilled_storeContract st).kept h).inv
  answered _ _ _ _ _ _ _ _ _ here := h.ended here
  failed _ _ _ _ _ _ _ _ _ here := h.ended here
  written e he id item hpush := by
    obtain ⟨hmem, _, _, recorded⟩ := h.recorded he ((h.lawful he).records id item hpush)
    exact recorded.exists_row hmem hpush
  distinct := h.rows_distinct
  leads := h.leads

end Shared

namespace AlertStore.Sample

/-- A trigger of the first alert is recorded. -/
def trigger : AlertRequest :=
  .createHistory { alert with id := some 1 } (.str "any_match") (.obj [("match_count", .int 1)])
    (.arr []) noon

/-- Two clients record a trigger of a new alert, both under a watch.  After the first has written
its row, the alert is removed before the second commits; so the second loses the race and then
finds the alert gone. -/
def removal : Shared :=
  Shared.play store (.opens (.save alert false) :: .opens trigger :: .opens trigger ::
    .opens (.delete (some 1)) ::
    [0, 0, 0, 1, 1, 1, 2, 2, 2, 2, 1, 1, 3, 3, 2, 2, 2, 2].map Shared.Move.serves)

end AlertStore.Sample

theorem Shared.Reachable.records_once_of_removal :
    Sample.removal.Reachable Sample.store ∧
      Sample.removal.journal.map (·.session) = [0, 0, 2, 1, 1, 3] ∧
      Sample.store.lastRow Sample.removal.data = 2 ∧
      (Sample.store.view Sample.removal.data (.history (some 1))).isNone ∧
      Sample.removal.RecordsOnce Sample.store :=
  ⟨reachable_play _ _, by decide +kernel, by decide +kernel, by decide +kernel,
    Reachable.records_once (reachable_play _ _)⟩

end KeyValue

end LogAlert
