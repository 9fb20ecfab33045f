import LogAlert.Log.Follower
import LogAlert.Match.Chain
import LogAlert.Proofs.Classification
import LogAlert.Proofs.LargeIntegers
import LogAlert.Proofs.LongIntegers

/-!
# Asking the records of log files

The records of a log file have times with an offset, so they compare with the times of a query, and
no integer that is too long to be written, so texts are searched in all their values.
A record then answers a token or refuses it, except for three sorts of pairs of a token and a
record: the comparison of an integer that is too large for double precision, equality with an
instant that has no counterpart in UTC, and equality with an instant at the end of the calendar.

## Main definitions

* `Filter.Unanswerable` : the pairs of a filter and a record for which there is no answer.
* `LogStore.Timed`, `LogStore.Fits` : the stores whose records have times with an offset, and those
  whose integers are within the limit.
* `Follower.Reached`, `LogStore.Ingested` : the stores of log files.
* `LogStore.Reads` : the reads of a store all succeed.

## Main results

* `Token.holds_error_iff` : a token fails on a record exactly if there is no answer.
* `Ndjson.load_ok`, `Follower.Reached.refresh_ok` : reading a log file does not fail.
* `LogStore.Ingested.fails_iff_unanswerable` : the reads of a log file fail on nothing else.
-/

namespace LogAlert

open LogAlert.Span (day second)

/-- There is no answer to whether a record answers a filter. -/
inductive Filter.Unanswerable (r : Record) : Filter → Prop where
  /-- The value under the key is an integer that is too large for double precision. -/
  | large {key value : String} {op : Operator} {n : Int}
      (found : Match.lookup? r.metadata key = some (.int n)) (large : Binary64.bound ≤ n.natAbs) :
      Unanswerable r (.metadata key op value)
  /-- The instant is not in the calendar of UTC. -/
  | nowhere {instant : Moment} (outside : instant.toUtc? = none) :
      Unanswerable r (.timestamp .eq instant)
  /-- The day or second that begins with the instant does not end in the calendar, and the record
  is not before the instant. -/
  | endless {instant utc : Moment} (converted : instant.toUtc? = some utc)
      (outside : instant.shift? (if utc.timeOfDay == 0 then day else second) = none)
      (reached : instant.instant ≤ r.timestamp.instant) :
      Unanswerable r (.timestamp .eq instant)

/-! ### Answers -/

namespace Match

variable {v : Json} {op : Operator} {expected : String}

theorem numberOf_error_iff :
    (∃ e, numberOf v = .error e) ↔ ∃ n, v = .int n ∧ Binary64.bound ≤ n.natAbs := by
  cases v with
  | int n =>
    rw [numberOf]
    cases h : Binary64.ofInt? n with
    | none => simp [← Binary64.ofInt?_eq_none, h]
    | some x => simp [← Binary64.ofInt?_eq_none, h]
  | null | bool | float | str | arr | obj => simp [numberOf]

/-- A comparison with a value that can be written fails with the number of the value alone. -/
theorem compare_error_iff (fits : v.fits) :
    (∃ e, compare v op expected = .error e) ↔ ∃ n, v = .int n ∧ Binary64.bound ≤ n.natAbs := by
  rw [← numberOf_error_iff, compare]
  split
  · next null =>
    have hnull : v = .null := by cases v <;> first | rfl | cases null
    simp [hnull, numberOf]
  · cases hv : numberOf v with
    | error e => exact iff_of_true ⟨e, rfl⟩ ⟨e, rfl⟩
    | ok left =>
      refine iff_of_false ?_ (by simp)
      rintro ⟨e, h⟩
      -- a comparand is a text, and a text has a number or none
      obtain ⟨right, hright⟩ : ∃ right, numberOf (.str expected) = .ok right := ⟨_, rfl⟩
      simp only [hright, textOf_eq fits, bind, Except.bind] at h
      split at h
      · cases h
      · split at h <;> cases h

theorem metadataMatches_error_iff {r : Record} (fits : r.Fits) {key : String} :
    (∃ e, metadataMatches r key op expected = .error e) ↔
      (Filter.metadata key op expected).Unanswerable r := by
  rw [metadataMatches]
  constructor
  · rintro ⟨e, h⟩
    split at h
    · next actual found =>
      obtain ⟨n, rfl, large⟩ := (compare_error_iff (fits_lookup? fits found)).mp ⟨e, h⟩
      exact .large found large
    · cases h
  · rintro ⟨found, large⟩
    rw [found]
    exact (compare_error_iff (fits_lookup? fits found)).mpr ⟨_, rfl, large⟩

/-- Times with an offset compare with instants with an offset. -/
theorem decided_ok {a b : Moment} (ha : a.isAware) (hb : b.isAware) :
    decided (a.atMost? b) = .ok (decide (a.instant ≤ b.instant)) ∧
      decided (a.before? b) = .ok (decide (a.instant < b.instant)) := by
  simp [decided, Moment.atMost?, Moment.before?, Moment.comparable, ha, hb]

/-- Equality with an instant fails without a counterpart in UTC, or without an end that is to be
compared with. -/
theorem timeMatches_eq {time instant : Moment} (timed : time.isAware)
    (aware : instant.isAware) :
    timeMatches time .eq instant =
      match instant.toUtc? with
      | none => .error .dateOverflow
      | some utc =>
        if instant.instant ≤ time.instant then
          match instant.shift? (if utc.timeOfDay == 0 then day else second) with
          | some stop => .ok (decide (time.instant < stop.instant))
          | none => .error .dateOverflow
        else .ok false := by
  have hassume : time.assumeUtc = time := by rw [Moment.assumeUtc, if_pos timed]
  rw [timeMatches, hassume, Instant.toUtc, if_pos aware]
  cases instant.toUtc? with
  | none => rfl
  | some utc =>
    dsimp only
    rw [(decided_ok aware timed).1]
    by_cases reached : instant.instant ≤ time.instant
    · rw [if_pos reached, decide_eq_true reached]
      change (match instant.shift? (if utc.timeOfDay == 0 then day else second) with
        | some stop => decided (time.before? stop)
        | none => .error .dateOverflow) = _
      cases h : instant.shift? (if utc.timeOfDay == 0 then day else second) with
      | none => rfl
      | some stop => exact (decided_ok timed (Instant.shift?_aware aware h)).2
    · rw [if_neg reached, decide_eq_false reached]
      rfl

theorem timeMatches_error_iff {r : Record} {instant : Moment} (timed : r.timestamp.isAware)
    (aware : instant.isAware) :
    (∃ e, timeMatches r.timestamp op instant = .error e) ↔
      (Filter.timestamp op instant).Unanswerable r := by
  have hassume : r.timestamp.assumeUtc = r.timestamp := by rw [Moment.assumeUtc, if_pos timed]
  by_cases heq : op = .eq
  · subst heq
    rw [timeMatches_eq timed aware]
    constructor
    · rintro ⟨e, h⟩
      split at h
      · next outside => exact .nowhere outside
      · next utc converted =>
        split at h
        · next reached =>
          split at h
          · cases h
          · next outside => exact .endless converted outside reached
        · cases h
    · rintro (⟨found, large⟩ | outside | ⟨converted, outside, reached⟩)
      · rw [outside]
        exact ⟨_, rfl⟩
      · rw [converted]
        dsimp only
        rw [if_pos reached, outside]
        exact ⟨_, rfl⟩
  · refine iff_of_false ?_ (fun h => by cases h <;> exact heq rfl)
    rintro ⟨e, h⟩
    unfold timeMatches at h
    rw [hassume] at h
    cases op with
    | eq => exact heq rfl
    | gt => cases (decided_ok aware timed).2.symm.trans h
    | gte => cases (decided_ok aware timed).1.symm.trans h
    | lt => cases (decided_ok timed aware).2.symm.trans h
    | lte => cases (decided_ok timed aware).1.symm.trans h

end Match

/-- **A token fails on a record exactly if there is no answer**, for the tokens that the reader
yields and records with timed entries whose integers are within the limit. -/
theorem Token.holds_error_iff {t : Token} {r : Record} (sound : t.Sound)
    (timed : r.timestamp.isAware) (fits : r.Fits) :
    (∃ e, t.holds r = .error e) ↔ t.filter.Unanswerable r := by
  have hholds : (∃ e, t.holds r = .error e) ↔ ∃ e, t.filter.holds r = .error e := by
    rw [Token.holds]
    cases t.filter.holds r with
    | error e => exact iff_of_true ⟨e, rfl⟩ ⟨e, rfl⟩
    | ok b => exact iff_of_false (fun ⟨e, h⟩ => nomatch h) (fun ⟨e, h⟩ => nomatch h)
  rw [hholds]
  obtain ⟨excluded, filter⟩ := t
  cases (sound : Filter.Sound excluded filter) with
  | metadata => exact Match.metadataMatches_error_iff fits
  | timestamp aware => exact Match.timeMatches_error_iff timed aware
  | word | colon | phrase =>
    refine iff_of_false (fun ⟨e, h⟩ => ?_) (fun h => nomatch h)
    exact nomatch (Match.containsText_eq fits).symm.trans h
  | level | source => exact iff_of_false (fun ⟨e, h⟩ => nomatch h) (fun h => nomatch h)

/-! ### Reads -/

namespace LogStore

variable {s : LogStore} {tokens : List Token}

/-- All records have times with an offset. -/
def Timed (s : LogStore) : Prop :=
  ∀ r ∈ s.records, r.timestamp.isAware

/-- All integers inside the records are short enough to be written. -/
def Fits (s : LogStore) : Prop :=
  ∀ r ∈ s.records, r.Fits

/-- Every read for some tokens succeeds: all matches, the first and the last match after any id,
and the number of matches from any time with an offset on. -/
structure Reads (s : LogStore) (tokens : List Token) : Prop where
  search : ∀ limit, ∃ rs, s.search tokens limit = .ok rs
  first : ∀ after, ∃ found, s.firstAfter after tokens = .ok found
  last : ∀ after, ∃ found, s.lastAfter after tokens = .ok found
  count : ∀ cutoff : Moment, cutoff.isAware → ∃ n, s.countSince cutoff tokens = .ok n

theorem holdAll_ok {r : Record} (h : ∀ t ∈ tokens, ¬∃ e, t.holds r = .error e) :
    ∃ b, Token.holdAll tokens r = .ok b := by
  induction tokens with
  | nil => exact ⟨true, rfl⟩
  | cons t tokens ih =>
    obtain ⟨first, rest⟩ := List.forall_mem_cons.mp h
    rw [Token.holdAll]
    cases ht : t.holds r with
    | error e => exact absurd ⟨e, ht⟩ first
    | ok b =>
      cases b with
      | true => exact ih rest
      | false => exact ⟨false, rfl⟩

private theorem select_ok {rs : List Record} (h : ∀ r ∈ rs, ∃ b, Token.holdAll tokens r = .ok b)
    (limit : Option Int) : ∃ found, Chain.select tokens limit rs = .ok found := by
  induction rs generalizing limit with
  | nil => exact ⟨[], by unfold Chain.select; rfl⟩
  | cons r rs ih =>
    obtain ⟨⟨b, hb⟩, rest⟩ := List.forall_mem_cons.mp h
    unfold Chain.select
    rw [hb]
    cases b with
    | false => exact ih rest limit
    | true =>
      cases limit with
      | none =>
        obtain ⟨found, hfound⟩ := ih rest none
        exact ⟨r :: found, congrArg (Except.map (r :: ·)) hfound⟩
      | some n =>
        change ∃ found, (if n ≤ 1 then .ok [r]
          else (Chain.select tokens (some (n - 1)) rs).map (r :: ·)) = .ok found
        split
        · exact ⟨[r], rfl⟩
        · obtain ⟨found, hfound⟩ := ih rest (some (n - 1))
          exact ⟨r :: found, congrArg (Except.map (r :: ·)) hfound⟩

theorem firstAbove_ok {rs : List Record}
    (h : ∀ r ∈ rs, ∃ b, Token.holdAll tokens r = .ok b) (floor : Int) :
    ∃ found, firstAbove floor tokens rs = .ok found := by
  induction rs with
  | nil => exact ⟨none, rfl⟩
  | cons r rs ih =>
    obtain ⟨⟨b, hb⟩, rest⟩ := List.forall_mem_cons.mp h
    rw [firstAbove, hb]
    split
    · cases b with
      | true => exact ⟨some r, rfl⟩
      | false => exact ih rest
    · exact ih rest

theorem firstUntil_ok {rs : List Record}
    (h : ∀ r ∈ rs, ∃ b, Token.holdAll tokens r = .ok b) (floor : Int) :
    ∃ found, firstUntil floor tokens rs = .ok found := by
  induction rs with
  | nil => exact ⟨none, rfl⟩
  | cons r rs ih =>
    obtain ⟨⟨b, hb⟩, rest⟩ := List.forall_mem_cons.mp h
    rw [firstUntil, hb]
    split
    · exact ⟨none, rfl⟩
    · cases b with
      | true => exact ⟨some r, rfl⟩
      | false => exact ih rest

private theorem countFrom_ok {rs : List Record} {cutoff : Moment} (aware : cutoff.isAware)
    (timed : ∀ r ∈ rs, r.timestamp.isAware)
    (h : ∀ r ∈ rs, ∃ b, Token.holdAll tokens r = .ok b) :
    ∃ n, countFrom cutoff tokens rs = .ok n := by
  induction rs with
  | nil => exact ⟨0, rfl⟩
  | cons r rs ih =>
    obtain ⟨⟨b, hb⟩, rest⟩ := List.forall_mem_cons.mp h
    obtain ⟨first, later⟩ := List.forall_mem_cons.mp timed
    obtain ⟨n, hn⟩ := ih later rest
    rw [countFrom, (Match.decided_ok aware first).1, hb, hn]
    cases decide (cutoff.instant ≤ r.timestamp.instant) with
    | true => exact ⟨_, rfl⟩
    | false => exact ⟨_, rfl⟩

/-- If no token fails on a record, no read fails. -/
theorem Timed.reads (hs : s.Timed) (h : ∀ r ∈ s.records, ∀ t ∈ tokens, ¬∃ e, t.holds r = .error e) :
    s.Reads tokens where
  search := select_ok fun r hr => holdAll_ok (h r hr)
  first _ := firstAbove_ok (fun r hr => holdAll_ok (h r hr)) _
  last _ := firstUntil_ok (fun r hr => holdAll_ok (h r (List.mem_reverse.mp hr))) _
  count _ aware := countFrom_ok aware hs fun r hr => holdAll_ok (h r hr)

end LogStore

/-! ### Reading log files -/

theorem Stamp.read?_aware {v : Json} {m : Moment} (h : Stamp.read? v = some m) : m.isAware := by
  have ofMicros {n : Int} {m : Moment} (h : Stamp.ofMicros? n = some m) : m.isAware := by
    rw [Stamp.ofMicros?] at h
    split at h
    · cases h
      rfl
    · cases h
  cases v with
  | int n => exact ofMicros h
  | float x =>
    cases x with
    | finite => exact ofMicros h
    | nan | infinite => cases h
  | str s =>
    rw [Stamp.read?, Stamp.ofText?] at h
    split at h
    · cases h
    · split at h
      · cases h
      · exact Instant.readAbsolute?_aware h
  | null | bool | arr | obj => cases h

/-- The record of a line has the line's number and a time with an offset, and no integer that is too
long. -/
theorem Ndjson.readLine?_spec {line : List Char} {number : Nat} {r : Record}
    (h : Ndjson.readLine? line number = some r) :
    r.id = number ∧ r.timestamp.isAware ∧ r.Fits := by
  rw [Ndjson.readLine?] at h
  split at h
  · next entry hentry =>
    rw [Record.ofEntry] at h
    split at h
    · cases h
    · next m stamped =>
      cases h
      refine ⟨rfl, Stamp.read?_aware stamped, fun f hf => ?_⟩
      exact Json.fieldsFit_iff.mp (Json.read_fits hentry) f (List.mem_of_mem_filter hf)
  · cases h

namespace LogStore

/-- The records of so many lines are stored, all their times have an offset, and all their integers
are within the limit. -/
structure Holds (s : LogStore) (lines : Nat) : Prop where
  timed : s.Timed
  fits : s.Fits
  next : s.nextId ≤ lines + 1

theorem holds_empty : empty.Holds 0 where
  timed _ h := nomatch h
  fits _ h := nomatch h
  next := by decide

/-- The record of the next line is stored. -/
theorem Holds.add {s : LogStore} {lines : Nat} (hs : s.Holds lines) {line : List Char} {r : Record}
    (h : Ndjson.readLine? line (lines + 1) = some r) :
    ∃ s', s.add r = .ok s' ∧ s'.Holds (lines + 1) := by
  obtain ⟨number, aware, fits⟩ := Ndjson.readLine?_spec h
  have hnext := hs.next
  have above : ¬r.id < s.nextId := by omega
  refine ⟨⟨s.records ++ [r], r.id + 1⟩, by rw [LogStore.add, if_neg above], ⟨?_, ?_, ?_⟩⟩
  · intro x hx
    rcases List.mem_append.mp hx with hx | hx
    · exact hs.timed x hx
    · exact List.mem_singleton.mp hx ▸ aware
  · intro x hx
    rcases List.mem_append.mp hx with hx | hx
    · exact hs.fits x hx
    · exact List.mem_singleton.mp hx ▸ fits
  · dsimp only
    omega

theorem Holds.succ {s : LogStore} {lines : Nat} (hs : s.Holds lines) : s.Holds (lines + 1) :=
  ⟨hs.timed, hs.fits, by have := hs.next; omega⟩

end LogStore

/-- The lines of a file are stored one after the other. -/
private theorem addAll_readLines {s : LogStore} {number : Nat} (hs : s.Holds number)
    (lines : List (List Char)) :
    ∃ s', s.addAll (Ndjson.readLines number lines) = .ok s' ∧ s'.Timed ∧ s'.Fits := by
  induction lines generalizing s number with
  | nil => exact ⟨s, rfl, hs.timed, hs.fits⟩
  | cons line lines ih =>
    rw [Ndjson.readLines]
    cases h : Ndjson.readLine? line (number + 1) with
    | none => exact ih hs.succ
    | some r =>
      obtain ⟨s', hadd, hs'⟩ := hs.add h
      obtain ⟨s'', hrest, held⟩ := ih hs'
      refine ⟨s'', ?_, held⟩
      change (s.add r >>= fun s => s.addAll (Ndjson.readLines (number + 1) lines)) = _
      rw [hadd]
      exact hrest

/-- **A log file is always loaded**, and its records have times with an offset and no integer that
is too long. -/
theorem Ndjson.load_ok (octets : List UInt8) :
    ∃ s, Ndjson.load octets = .ok s ∧ s.Timed ∧ s.Fits :=
  addAll_readLines LogStore.holds_empty _

namespace Follower

/-- The states of following a file that may be anything at each refresh, or nothing. -/
inductive Reached : Follower → Prop where
  | start : Reached .start
  | refresh {f : Follower} (reached : Reached f) (file : Option (List UInt8)) :
      Reached (f.refresh file).1

/-- The records of the lines read so far are stored. -/
def Holds (f : Follower) : Prop :=
  f.store.Holds f.lines

private theorem readLine_ok {f : Follower} (hf : f.Holds) (line : List UInt8) :
    (f.readLine line).1.Holds ∧ ∃ n, (f.readLine line).2 = .ok n := by
  rw [readLine]
  dsimp only
  cases h : Ndjson.readLine? (Text.Utf8.decode line) (f.lines + 1) with
  | none => exact ⟨LogStore.Holds.succ hf, 0, rfl⟩
  | some r =>
    obtain ⟨s, hadd, hs⟩ := LogStore.Holds.add hf h
    dsimp only
    rw [hadd]
    exact ⟨hs, 1, rfl⟩

theorem readLines_ok {f : Follower} (hf : f.Holds) (lines : List (List UInt8)) :
    (f.readLines lines).1.Holds ∧ ∃ n, (f.readLines lines).2 = .ok n := by
  induction lines generalizing f with
  | nil => exact ⟨hf, 0, rfl⟩
  | cons line lines ih =>
    obtain ⟨hf', n, hn⟩ := readLine_ok hf line
    rw [readLines]
    generalize f.readLine line = read at *
    obtain ⟨f', result⟩ := read
    subst hn
    obtain ⟨hf'', m, hm⟩ := ih hf'
    dsimp only
    generalize f'.readLines lines = rest at *
    obtain ⟨f'', result⟩ := rest
    subst hm
    exact ⟨hf'', n + m, rfl⟩

private theorem Holds.refresh {f : Follower} (hf : f.Holds) (file : Option (List UInt8)) :
    (f.refresh file).1.Holds ∧ ∃ n, (f.refresh file).2 = .ok n := by
  cases file with
  | none => exact ⟨hf, 0, rfl⟩
  | some octets =>
    have rewound : ({ f with offset := 0 } : Follower).Holds := hf
    rw [Follower.refresh]
    split
    · exact readLines_ok rewound _
    · exact readLines_ok hf _

private theorem Reached.holds {f : Follower} (reached : Reached f) : f.Holds := by
  induction reached with
  | start => exact LogStore.holds_empty
  | refresh _ file ih => exact (ih.refresh file).1

/-- **A refresh never fails**, whatever became of the file. -/
theorem Reached.refresh_ok {f : Follower} (reached : Reached f) (file : Option (List UInt8)) :
    ∃ n, (f.refresh file).2 = .ok n :=
  (reached.holds.refresh file).2

end Follower

/-- The stores of log files: of a file that was read as a whole, and of a file that is followed. -/
inductive LogStore.Ingested : LogStore → Prop where
  | loaded {octets : List UInt8} {s : LogStore} (h : Ndjson.load octets = .ok s) : Ingested s
  | followed {f : Follower} (reached : f.Reached) : Ingested f.store

theorem LogStore.Ingested.held {s : LogStore} (h : s.Ingested) : s.Timed ∧ s.Fits := by
  cases h with
  | @loaded octets _ h =>
    obtain ⟨s', hs', held⟩ := Ndjson.load_ok octets
    obtain rfl := Except.ok.inj (h.symm.trans hs')
    exact held
  | followed reached => exact ⟨reached.holds.timed, reached.holds.fits⟩

/-- **Only an unanswerable pair fails.**  At a current time every query is read.  On the store of
a log file a token of it fails on a record exactly if there is no answer, and if there is always
one, no read for the query fails. -/
theorem LogStore.Ingested.fails_iff_unanswerable {s : LogStore} (hs : s.Ingested) {now : Moment}
    (hnow : now.Current) (query : List Char) :
    ∃ tokens, Query.parse query now = .ok tokens ∧
      (∀ r ∈ s.records, ∀ t ∈ tokens,
        (∃ e, t.holds r = .error e) ↔ t.filter.Unanswerable r) ∧
      ((∀ r ∈ s.records, ∀ t ∈ tokens, ¬t.filter.Unanswerable r) → s.Reads tokens) := by
  obtain ⟨tokens, hparse, sound⟩ := Query.parse_sound hnow query
  obtain ⟨timed, fits⟩ := hs.held
  have fails (r : Record) (hr : r ∈ s.records) (t : Token) (ht : t ∈ tokens) :
      (∃ e, t.holds r = .error e) ↔ t.filter.Unanswerable r :=
    Token.holds_error_iff (sound t ht) (timed r hr) (fits r hr)
  refine ⟨tokens, hparse, fails, fun answerable => timed.reads fun r hr t ht => ?_⟩
  rw [fails r hr t ht]
  exact answerable r hr t ht

namespace Sample

/-- A file with one entry, whose field is an integer of 401 digits. -/
def largeFile : List UInt8 :=
  Text.Utf8.encode ("\x7b\"timestamp\": \"2024-05-01T00:00:00Z\", \"n\": 9".toList ++
    List.replicate 400 '0' ++ "\x7d\n".toList)

/-- A query about the field. -/
def largeQuery : List Char :=
  "n:>1".toList

/-- A time after that of the entry. -/
def reading : Moment :=
  ⟨63890000000000000, some 0⟩

theorem reading_current : reading.Current where
  utc := rfl
  low := by decide
  high := by decide

end Sample

theorem LogStore.Ingested.fails_iff_unanswerable_of_largeFile :
    ∃ s, Ndjson.load Sample.largeFile = .ok s ∧ s.Ingested ∧ Sample.reading.Current ∧
      ∃ tokens, Query.parse Sample.largeQuery Sample.reading = .ok tokens ∧
        (∀ r ∈ s.records, ∀ t ∈ tokens,
          (∃ e, t.holds r = .error e) ↔ t.filter.Unanswerable r) ∧
        ((∀ r ∈ s.records, ∀ t ∈ tokens, ¬t.filter.Unanswerable r) → s.Reads tokens) := by
  obtain ⟨s, hs, -⟩ := Ndjson.load_ok Sample.largeFile
  exact ⟨s, hs, .loaded hs, Sample.reading_current,
    LogStore.Ingested.fails_iff_unanswerable (.loaded hs) Sample.reading_current Sample.largeQuery⟩

/-- Not every read of a log file succeeds: a single entry with a large integer makes it fail. -/
theorem reads_fail_on_largeFile :
    ¬∀ (octets : List UInt8) (s : LogStore) (query : List Char) (now : Moment)
      (tokens : List Token), Ndjson.load octets = .ok s → now.Current →
        Query.parse query now = .ok tokens → s.Reads tokens := by
  intro reads
  have fails : ((Ndjson.load Sample.largeFile).toOption.bind fun s =>
      (Query.parse Sample.largeQuery Sample.reading).toOption.bind fun tokens =>
        (s.search tokens none).toOption).isNone := by
    decide +kernel
  obtain ⟨s, hs, -⟩ := Ndjson.load_ok Sample.largeFile
  obtain ⟨tokens, hparse, -⟩ := Query.parse_sound Sample.reading_current Sample.largeQuery
  obtain ⟨rs, hsearch⟩ :=
    (reads _ s _ _ tokens hs Sample.reading_current hparse).search none
  rw [hs, hparse] at fails
  simp [hsearch, Except.toOption] at fails

end LogAlert
