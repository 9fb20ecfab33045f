import LogAlert.Proofs.Answering
import LogAlert.Proofs.MissedTexts

/-!
# Log lines at any time

The times of log entries are read by the reader of the times of queries, which looks at the clock
for some words and for amounts after a minus sign.  These are refused before they get to it, so a
line has the same record whenever it is read, or never has one.  No failure gets past a line.

## Main definitions

* `Stamp.readAt`, `Record.ofEntryAt`, `Ndjson.readLineAt` : reading a line at a given time, with the
  failures that the parts end in.
* `Record.LiftedFrom` : the record has the fields of an entry.

## Main results

* `Stamp.readAt_eq` : the clock does not matter for the time of an entry.
* `Ndjson.readLineAt_eq` : nor for a line, which never fails.
* `Ndjson.record_at_any_time` : which lines have records, and what these are.
-/

namespace LogAlert

open Text (lower lowerChar strip)

/-! ### Minus signs -/

/-- Only the minus sign has itself as its lower-case form. -/
theorem Text.lowerChar_eq_minus_iff {c : Char} : lowerChar c = '-' ↔ c = '-' := by
  refine ⟨fun h => ?_, fun h => by rw [h]; rfl⟩
  by_cases ascii : c.toNat < 128
  · exact Json.forall_of_toNat_lt (p := fun c => lowerChar c = '-' → c = '-')
      (by decide) c ascii h
  · have hdocument : ¬Json.IsDocumentChar c := fun hc => ascii (Nat.lt_succ_of_lt hc.2)
    by_cases hkelvin : c = Json.kelvin
    · subst hkelvin
      have image : lowerChar Json.kelvin = 'k' := rfl
      rw [image] at h
      exact absurd h (by decide)
    by_cases dotted : c = '\u0130'
    · subst dotted
      exact absurd h (by decide)
    · exact absurd (h ▸ by decide)
        (Json.not_isDocumentChar_lowerChar hdocument hkelvin dotted)

/-- A text starts with a minus sign exactly if its lower-case form does. -/
theorem Text.head?_lower_eq_minus_iff {cs : List Char} :
    (lower cs).head? = some '-' ↔ cs.head? = some '-' := by
  cases cs with
  | nil => exact Iff.rfl
  | cons c cs =>
    rw [lower_eq, lowerBetween, List.head?_cons, Option.some.injEq]
    by_cases dotted : c = '\u0130'
    · subst dotted
      exact iff_of_false (by simp [lowerImage]) (by decide)
    by_cases sigma : c = '\u03a3'
    · subst sigma
      refine iff_of_false ?_ (by decide)
      cases endsWord [] (cs ++ []) <;> simp [lowerImage]
    rw [lowerImage_single dotted sigma, List.singleton_append, List.head?_cons, Option.some.injEq,
      lowerChar_eq_minus_iff]

/-! ### Times of entries -/

namespace Stamp

/-- The moment of a value, read at a given time.  A text is handed on to the reader of the times of
queries, unless what it names depends on the clock. -/
def readAt (v : Json) (now : Moment) : Except Failure (Option Moment) :=
  match v with
  | .str s =>
    let value := strip s.toList
    let lowered := lower value
    if lowered == Instant.todayWord || lowered == Instant.yesterdayWord ||
        value.head? = some '-' then
      .ok none
    else Instant.read value now
  | v => .ok (read? v)

/-- **The clock does not matter** for the time of an entry, and no value fails. -/
theorem readAt_eq (v : Json) (now : Moment) : readAt v now = .ok (read? v) := by
  cases v with
  | str s =>
    rw [readAt, read?, ofText?, Instant.read, Text.strip_strip]
    generalize strip s.toList = value
    cases hword : lower value == Instant.todayWord || lower value == Instant.yesterdayWord with
    | true => rw [Bool.true_or]; rfl
    | false =>
      obtain ⟨htoday, hyesterday⟩ := Bool.or_eq_false_iff.mp hword
      by_cases hminus : value.head? = some '-'
      · rw [decide_eq_true hminus, Bool.or_true, Bool.or_true]
        rfl
      · have hlower : ¬(lower value).head? = some '-' := mt Text.head?_lower_eq_minus_iff.mp hminus
        rw [decide_eq_false hminus, htoday, hyesterday, if_neg hlower, Bool.or_false]
        cases value.isEmpty <;> rfl
  | null | bool | int | float | arr | obj => rfl

end Stamp

/-! ### Records of entries -/

/-- The content of a value is at fault: of a field, or of a text that is no document. -/
def Failure.isOfValue (e : Failure) : Bool :=
  match e.kind with
  | .value | .json | .config _ => true
  | _ => false

theorem Failure.isOfValue_ofSyntax (e : Json.SyntaxError) : (ofSyntax e).isOfValue := by
  rw [ofSyntax]
  split <;> rfl

/-- The answer of a reading that is passed over if the content of a value is at fault. -/
def Failure.passOver {α : Type} : Except Failure (Option α) → Except Failure (Option α)
  | .ok answer => .ok answer
  | .error e => if e.isOfValue then .ok none else .error e

theorem Failure.passOver_error {α : Type} {e : Failure} (h : e.isOfValue) :
    passOver (.error e : Except Failure (Option α)) = .ok none :=
  if_pos h

namespace Record

/-- The record of a log entry that is read at a given time. -/
def ofEntryAt (id : Int) (entry : Json.Fields) (now : Moment) : Except Failure Record := do
  let stamp := (Json.field? entry "timestamp").getD .null
  match ← Stamp.readAt stamp now with
  | none => .error (.value ("no usable timestamp: " ++ stamp.inspect))
  | some timestamp =>
    .ok {
      id
      timestamp
      level := Level.normalize ((Json.field? entry "level").getD .null)
      message := textOf (Json.field? entry "message")
      source := textOf (Json.field? entry "source")
      metadata := entry.filter fun f => !ownKeys.contains f.1 }

theorem ofEntryAt_eq (id : Int) (entry : Json.Fields) (now : Moment) :
    ofEntryAt id entry now = ofEntry id entry := by
  rw [ofEntryAt, ofEntry, Stamp.readAt_eq]
  cases Stamp.read? ((Json.field? entry "timestamp").getD .null) <;> rfl

/-- The record has a number for its id, the time of an entry, a severity, and all fields of the
entry that have no place of their own. -/
structure LiftedFrom (r : Record) (number : Nat) (entry : Json.Fields) : Prop where
  id : r.id = number
  stamp : ∃ stamp, Json.field? entry "timestamp" = some stamp ∧
    ∀ now, Stamp.readAt stamp now = .ok (some r.timestamp)
  timed : r.timestamp.isAware
  level : r.level ∈ Level.names
  order : r.metadata.Sublist entry
  rest : ∀ f, f ∈ r.metadata ↔ f ∈ entry ∧ f.1 ∉ ["timestamp", "level", "message", "source"]

end Record

/-- Every value has one of the four severities. -/
theorem Level.normalize_mem_names (v : Json) : Level.normalize v ∈ Level.names := by
  rw [normalize]
  generalize (if v.isTruthy then v.display.toList else []) = cs
  rw [ofText]
  split
  · next known => exact List.contains_iff_mem.mp known
  · split
    · decide
    · decide

namespace Record

variable {r : Record} {number : Nat} {entry : Json.Fields}

/-- An entry has a record if it has a time. -/
theorem exists_ofEntry_iff {id : Int} : (∃ r, ofEntry id entry = .ok r) ↔
    ∃ stamp time, Json.field? entry "timestamp" = some stamp ∧ Stamp.read? stamp = some time := by
  rw [ofEntry]
  cases Json.field? entry "timestamp" with
  | none =>
    refine iff_of_false ?_ ?_
    · rintro ⟨_, ⟨⟩⟩
    · rintro ⟨_, _, ⟨⟩, -⟩
  | some stamp =>
    rw [Option.getD_some]
    cases hstamp : Stamp.read? stamp with
    | none =>
      refine iff_of_false ?_ ?_
      · rintro ⟨_, ⟨⟩⟩
      · rintro ⟨other, time, hother, htime⟩
        obtain rfl := Option.some.inj hother
        cases hstamp.symm.trans htime
    | some time => exact iff_of_true ⟨_, rfl⟩ ⟨stamp, time, rfl, hstamp⟩

/-- Without one, the content of the entry is at fault. -/
theorem isOfValue_of_ofEntry {id : Int} {e : Failure} (h : ofEntry id entry = .error e) :
    e.isOfValue := by
  rw [ofEntry] at h
  split at h
  · obtain rfl := Except.error.inj h
    rfl
  · cases h

theorem liftedFrom_of_ofEntry (h : ofEntry number entry = .ok r) : r.LiftedFrom number entry := by
  obtain ⟨stamp, time, hfield, hstamp⟩ := exists_ofEntry_iff.mp ⟨r, h⟩
  rw [ofEntry, hfield, Option.getD_some, hstamp] at h
  rw [← Except.ok.inj h]
  exact {
    id := rfl
    stamp := ⟨stamp, hfield, fun now => by rw [Stamp.readAt_eq, hstamp]⟩
    timed := Stamp.read?_aware hstamp
    level := by
      dsimp only
      exact Level.normalize_mem_names _
    order := List.filter_sublist
    rest := fun f => by
      rw [List.mem_filter, Bool.not_eq_true', ← Bool.not_eq_true, List.contains_iff_mem, ownKeys] }

end Record

/-! ### Lines -/

namespace Ndjson

/-- The record of a text that is not blank, read at a given time.  It may be no document, no object,
or have no time. -/
def readTextAt (text : List Char) (number : Nat) (now : Moment) :
    Except Failure (Option Record) := do
  match ← (Json.read text).mapError Failure.ofSyntax with
  | .obj entry => (Record.ofEntryAt number entry now).map some
  | _ => .ok none

/-- The record of a line, read at a given time.  Only failures with the content of the line are
passed over. -/
def readLineAt (line : List Char) (number : Nat) (now : Moment) :
    Except Failure (Option Record) :=
  let text := strip line
  if text.isEmpty then .ok none else Failure.passOver (readTextAt text number now)

variable {line : List Char} {number : Nat} {r : Record}

/-- A line has a record if it is an object that has one. -/
theorem readLine?_eq_some_iff : readLine? line number = some r ↔
    ∃ entry, Json.read (strip line) = .ok (.obj entry) ∧ Record.ofEntry number entry = .ok r := by
  have toOption_eq_some_iff {x : Except Failure Record} : x.toOption = some r ↔ x = .ok r := by
    cases x with
    | error e => exact iff_of_false nofun nofun
    | ok r' =>
      exact ⟨fun h => congrArg _ (Option.some.inj h), fun h => congrArg _ (Except.ok.inj h)⟩
  rw [readLine?]
  constructor
  · intro h
    split at h
    · next entry hread => exact ⟨entry, hread, toOption_eq_some_iff.mp h⟩
    · cases h
  · rintro ⟨entry, hread, hentry⟩
    rw [hread]
    exact toOption_eq_some_iff.mpr hentry

/-- **A line does not fail**, and the clock does not matter for it. -/
theorem readLineAt_eq (line : List Char) (number : Nat) (now : Moment) :
    readLineAt line number now = .ok (readLine? line number) := by
  rw [readLineAt, readLine?]
  split
  · next blank =>
    rw [List.isEmpty_iff.mp blank]
    rfl
  · cases hread : Json.read (strip line) with
    | error e =>
      rw [readTextAt, hread]
      exact Failure.passOver_error (Failure.isOfValue_ofSyntax e)
    | ok v =>
      rw [readTextAt, hread]
      cases v with
      | obj entry =>
        change Failure.passOver ((Record.ofEntryAt number entry now).map some) =
          .ok (Record.ofEntry number entry).toOption
        rw [Record.ofEntryAt_eq]
        cases hentry : Record.ofEntry number entry with
        | ok r => rfl
        | error e => exact Failure.passOver_error (Record.isOfValue_of_ofEntry hentry)
      | null | bool | int | float | str | arr => rfl

/-- **A line is a record or is passed over, the same at any time.**  No line fails.  It has a record
exactly if it is an object with a time, at whatever time this is read. -/
theorem record_at_any_time (line : List Char) (number : Nat) :
    (∀ now, readLineAt line number now = .ok (readLine? line number)) ∧
      (∀ now, (readLine? line number).isSome ↔ ∃ entry stamp time,
        Json.read (strip line) = .ok (.obj entry) ∧
          Json.field? entry "timestamp" = some stamp ∧
          Stamp.readAt stamp now = .ok (some time)) ∧
      ∀ r ∈ readLine? line number, ∃ entry,
        Json.read (strip line) = .ok (.obj entry) ∧ r.LiftedFrom number entry := by
  refine ⟨readLineAt_eq line number, fun now => ?_, fun r hr => ?_⟩
  · rw [Option.isSome_iff_exists]
    simp only [readLine?_eq_some_iff, Stamp.readAt_eq, Except.ok.injEq]
    rw [exists_comm]
    simp only [exists_and_left, Record.exists_ofEntry_iff]
  · obtain ⟨entry, hread, hentry⟩ := readLine?_eq_some_iff.mp hr
    exact ⟨entry, hread, Record.liftedFrom_of_ofEntry hentry⟩

namespace Sample

/-- A line with a count of seconds for its time and a field that has no place of its own. -/
def epochLine : List Char :=
  " \x7b\"n\": [1], \"level\": \"WARN\", \"timestamp\": 1.5\x7d\n".toList

end Sample

/-- A line that has a record at any time. -/
theorem record_at_any_time_of_epochLine :
    (readLine? Sample.epochLine 3).isSome ∧ ∃ r entry, readLine? Sample.epochLine 3 = some r ∧
      Json.read (strip Sample.epochLine) = .ok (.obj entry) ∧ r.LiftedFrom 3 entry := by
  have isRecord : (readLine? Sample.epochLine 3).isSome := by decide +kernel
  obtain ⟨r, hr⟩ := Option.isSome_iff_exists.mp isRecord
  obtain ⟨entry, hread, lifted⟩ := (record_at_any_time Sample.epochLine 3).2.2 r hr
  exact ⟨isRecord, r, entry, hr, hread, lifted⟩

end Ndjson

end LogAlert
