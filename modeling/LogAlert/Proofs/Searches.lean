import LogAlert.Proofs.Answering
import LogAlert.Proofs.Records

/-!
# What the reads of a log store find

If every token of a query has an answer on every record, the reads of a log store are those of a
list: the records that answer the query, the earliest and the latest of them after an id, and how
many of them there are from a time on.

## Main definitions

* `Record.answers` : whether a record answers every token.
* `LogStore.Answerable` : every token has an answer on every record.
* `LogStore.Fresh`, `LogStore.Earliest`, `LogStore.Latest` : the records after an id that answer
  every token, the first of them and the last.

## Main results

* `LogStore.Answerable.search_eq`, `LogStore.Answerable.countSince_eq` : all records found.
* `LogStore.Sound.earliest`, `LogStore.Sound.latest` : one record found.
-/

namespace LogAlert

/-- Whether a record answers every token. -/
def Record.answers (r : Record) (tokens : List Token) : Bool :=
  (Token.holdAll tokens r).toOption.getD false

/-- The tokens are asked up to the first refusal, and none is left over if all are answered. -/
theorem Token.holdAll_eq_true_iff {tokens : List Token} {r : Record} :
    Token.holdAll tokens r = .ok true ↔ ∀ t ∈ tokens, t.holds r = .ok true := by
  induction tokens with
  | nil => simp [holdAll]
  | cons t tokens ih =>
    rw [holdAll, List.forall_mem_cons, ← ih]
    cases t.holds r with
    | error e =>
      refine iff_of_false ?_ ?_
      · rintro ⟨⟩
      · rintro ⟨⟨⟩, -⟩
    | ok b =>
      cases b with
      | true => exact ⟨fun h => ⟨rfl, h⟩, fun h => h.2⟩
      | false =>
        refine iff_of_false ?_ ?_
        · rintro ⟨⟩
        · rintro ⟨⟨⟩, -⟩

theorem Record.answers_iff {r : Record} {tokens : List Token} :
    r.answers tokens ↔ ∀ t ∈ tokens, t.holds r = .ok true := by
  rw [← Token.holdAll_eq_true_iff, answers]
  cases Token.holdAll tokens r with
  | error e =>
    refine iff_of_false ?_ ?_
    · rintro ⟨⟩
    · rintro ⟨⟩
  | ok b => exact ⟨congrArg _, fun h => by rw [h]; rfl⟩

/-- A record answers tokens one after the other if it answers both parts. -/
theorem Record.answers_append (r : Record) (ts us : List Token) :
    r.answers (ts ++ us) = (r.answers ts && r.answers us) := by
  rw [Bool.eq_iff_iff, Bool.and_eq_true]
  simp only [answers_iff, List.forall_mem_append]

namespace LogStore

variable {s : LogStore} {tokens : List Token}

/-- Every token has an answer on every record. -/
def Answerable (s : LogStore) (tokens : List Token) : Prop :=
  ∀ r ∈ s.records, ∀ t ∈ tokens, ∃ b, t.holds r = .ok b

/-- It can be checked by asking all of them. -/
instance (s : LogStore) (tokens : List Token) : Decidable (s.Answerable tokens) :=
  decidable_of_iff (∀ r ∈ s.records, ∀ t ∈ tokens, (t.holds r).toOption.isSome) <| by
    refine forall₂_congr fun r _ => forall₂_congr fun t _ => ?_
    cases t.holds r with
    | error e => exact iff_of_false nofun nofun
    | ok b => exact iff_of_true rfl ⟨b, rfl⟩

/-- The record is stored, is after the given id if there is one, and answers every token. -/
def Fresh (s : LogStore) (after : Option Int) (tokens : List Token) (r : Record) : Prop :=
  r ∈ s.records ∧ (∀ seen ∈ after, seen < r.id) ∧ ∀ t ∈ tokens, t.holds r = .ok true

/-- For the tokens of a given query it can be checked by reading the query. -/
theorem Answerable.of_parse {query : List Char} {now : Moment}
    (hquery : Query.parse query now = .ok tokens)
    (h : (Query.parse query now).toOption.all (s.Answerable ·) = true) : s.Answerable tokens := by
  rw [hquery] at h
  exact of_decide_eq_true h

theorem Answerable.append {ts us : List Token} (hts : s.Answerable ts) (hus : s.Answerable us) :
    s.Answerable (ts ++ us) :=
  fun r hr t ht => (List.mem_append.mp ht).elim (hts r hr t) (hus r hr t)

/-- On a stored record the tokens have an answer. -/
theorem Answerable.holdAll_eq (h : s.Answerable tokens) {r : Record} (hr : r ∈ s.records) :
    Token.holdAll tokens r = .ok (r.answers tokens) := by
  obtain ⟨b, hb⟩ := holdAll_ok fun t ht => by
    obtain ⟨b, hb⟩ := h r hr t ht
    rintro ⟨e, he⟩
    cases hb.symm.trans he
  rw [Record.answers, hb]
  rfl

theorem Answerable.answered (h : s.Answerable tokens) :
    ∀ r ∈ s.records, ∃ b, Token.holdAll tokens r = .ok b :=
  fun _ hr => ⟨_, h.holdAll_eq hr⟩

/-! ### All records -/

/-- **A search** yields the records that answer the query, in their order. -/
theorem Answerable.search_eq (h : s.Answerable tokens) :
    s.search tokens none = .ok (s.records.filter (·.answers tokens)) := by
  have select_eq {rs : List Record}
      (hrs : ∀ r ∈ rs, Token.holdAll tokens r = .ok (r.answers tokens)) :
      Chain.select tokens none rs = .ok (rs.filter (·.answers tokens)) := by
    induction rs with
    | nil => rw [Chain.select, List.filter_nil]
    | cons r rs ih =>
      obtain ⟨hr, hrs⟩ := List.forall_mem_cons.mp hrs
      rw [Chain.select, hr, List.filter_cons]
      cases r.answers tokens with
      | true => exact congrArg (Except.map (r :: ·)) (ih hrs)
      | false => exact ih hrs
  exact select_eq fun r hr => h.holdAll_eq hr

/-- A count is the number of records from the time on that answer the query. -/
theorem Answerable.countSince_eq (h : s.Answerable tokens) (timed : s.Timed) {cutoff : Moment}
    (aware : cutoff.isAware) :
    s.countSince cutoff tokens = .ok (s.records.countP fun r =>
      cutoff.instant ≤ r.timestamp.instant && r.answers tokens) := by
  have count_eq {rs : List Record}
      (hrs : ∀ r ∈ rs, Token.holdAll tokens r = .ok (r.answers tokens))
      (timed : ∀ r ∈ rs, r.timestamp.isAware) :
      countFrom cutoff tokens rs = .ok (rs.countP fun r =>
        cutoff.instant ≤ r.timestamp.instant && r.answers tokens) := by
    induction rs with
    | nil => rfl
    | cons r rs ih =>
      obtain ⟨hr, hrs⟩ := List.forall_mem_cons.mp hrs
      obtain ⟨first, later⟩ := List.forall_mem_cons.mp timed
      rw [countFrom, (Match.decided_ok aware first).1, hr, ih hrs later, List.countP_cons]
      cases decide (cutoff.instant ≤ r.timestamp.instant) with
      | false => rfl
      | true => cases r.answers tokens <;> rfl
  exact count_eq (fun r hr => h.holdAll_eq hr) timed

/-! ### One record -/

/-- Ids are positive, so that without an id to be after every record is after zero. -/
theorem Sound.fresh_iff (hs : s.Sound) {after : Option Int} {r : Record} :
    s.Fresh after tokens r ↔
      r ∈ s.records ∧ after.getD 0 < r.id ∧ Token.holdAll tokens r = .ok true := by
  rw [Fresh, Token.holdAll_eq_true_iff]
  refine and_congr_right fun hr => and_congr_left fun _ => ?_
  cases after with
  | none => exact iff_of_true (fun seen h => nomatch h) (hs.pos r hr)
  | some seen => simp

variable {after : Option Int} {r : Record}

/-- The record comes first of the records after the id that answer every token. -/
structure Earliest (s : LogStore) (after : Option Int) (tokens : List Token) (r : Record) :
    Prop where
  fresh : s.Fresh after tokens r
  least : ∀ x, s.Fresh after tokens x → r.id ≤ x.id

/-- The record comes last of the records after the id that answer every token. -/
structure Latest (s : LogStore) (after : Option Int) (tokens : List Token) (r : Record) :
    Prop where
  fresh : s.Fresh after tokens r
  greatest : ∀ x, s.Fresh after tokens x → x.id ≤ r.id

theorem Answerable.firstAfter_ok (h : s.Answerable tokens) (after : Option Int) :
    ∃ found, s.firstAfter after tokens = .ok found :=
  firstAbove_ok h.answered (after.getD 0)

theorem Answerable.lastAfter_ok (h : s.Answerable tokens) (after : Option Int) :
    ∃ found, s.lastAfter after tokens = .ok found :=
  firstUntil_ok (fun r hr => h.answered r (List.mem_reverse.mp hr)) (after.getD 0)

/-- **The earliest record** after an id that answers the query is found. -/
theorem Sound.earliest (hs : s.Sound) (h : s.firstAfter after tokens = .ok (some r)) :
    s.Earliest after tokens r where
  fresh := hs.fresh_iff.mpr (firstAfter_some h)
  least x hx := by
    obtain ⟨hx, above, holds⟩ := hs.fresh_iff.mp hx
    obtain ⟨r', hr', le⟩ := hs.firstAfter_first h x hx above holds
    rwa [Option.some.inj hr']

theorem Sound.not_fresh_of_firstAfter (hs : s.Sound) (h : s.firstAfter after tokens = .ok none)
    (x : Record) : ¬s.Fresh after tokens x := by
  intro hx
  obtain ⟨hx, above, holds⟩ := hs.fresh_iff.mp hx
  obtain ⟨r', hr', -⟩ := hs.firstAfter_first h x hx above holds
  cases hr'

/-- **The latest record** after an id that answers the query is found. -/
theorem Sound.latest (hs : s.Sound) (h : s.lastAfter after tokens = .ok (some r)) :
    s.Latest after tokens r := by
  obtain ⟨hr, above, holds, latest⟩ := hs.lastAfter_some h
  refine ⟨hs.fresh_iff.mpr ⟨hr, above, holds⟩, fun x hx => ?_⟩
  obtain ⟨hx, -, holds⟩ := hs.fresh_iff.mp hx
  exact latest x hx holds

theorem Sound.not_fresh_of_lastAfter (hs : s.Sound) (h : s.lastAfter after tokens = .ok none)
    (x : Record) : ¬s.Fresh after tokens x := by
  intro hx
  obtain ⟨hx, above, holds⟩ := hs.fresh_iff.mp hx
  exact absurd above (Int.not_lt.mpr (hs.lastAfter_none h x hx holds))

end LogStore

end LogAlert
