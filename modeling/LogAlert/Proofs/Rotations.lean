import LogAlert.Proofs.LogFiles
import Mathlib.Data.List.ReduceOption

/-!
# Log files that are rotated

A file that is followed may have become anything at the next refresh: longer, shorter, another
file, or none.  What is taken from it are complete lines, each once, and the lines of all refreshes
are counted together.  The number of a line in this count is the id of its record, so the ids
ascend through every rotation.

Only the end of the last line that was read is remembered, and not how long the file was.  A file
that has become shorter is therefore read from the top if it ends before this place, and otherwise
from this place on.

## Main definitions

* `Follower.Taken` : the lines that are taken from a file which is found in several states.
* `Follower.refreshed` : the state after that.
* `Follower.place` : where a refresh begins to read.

## Main results

* `Follower.Holds.refresh_reads` : a refresh reads the complete lines from one place on.
* `Follower.ids_survive_rotation` : ids are the numbers of lines and are never given twice.
* `Follower.from_top_iff` : when a file is read from the top.
-/

namespace LogAlert

open LogAlert.Text (LineOf completeLines)
open LogAlert.Text.Utf8 (decode)

theorem Ndjson.id_of_mem_readLines {number : Nat} {lines : List (List Char)} {r : Record}
    (h : r ∈ Ndjson.readLines number lines) :
    (number : Int) < r.id ∧ r.id ≤ (number + lines.length : Nat) := by
  obtain ⟨i, line, hline, hr⟩ := Ndjson.mem_readLines.mp h
  have hid := (Ndjson.readLine?_spec hr).1
  have hlt := (List.getElem?_eq_some_iff.mp hline).1
  omega

namespace Follower

variable {f f' : Follower} {n : Nat} {files : List (Option (List UInt8))} {octets : List UInt8}

/-! ### What is taken from a file -/

/-- What is taken from a file that is found in several states or, with `none`, not at all: the
place up to which the last state was read, and all lines that were read. -/
inductive Taken : List (Option (List UInt8)) → Nat → List (List UInt8) → Prop where
  | nothing : Taken [] 0 []
  | missing {files : List (Option (List UInt8))} {place : Nat} {lines : List (List UInt8)}
      (taken : Taken files place lines) : Taken (files ++ [none]) place lines
  /-- A file that reaches to the place is read on from there. -/
  | onward {files : List (Option (List UInt8))} {place : Nat} {lines : List (List UInt8)}
      {octets : List UInt8} (taken : Taken files place lines) (reaches : place ≤ octets.length) :
      Taken (files ++ [some octets])
        (place + (completeLines (octets.drop place)).flatten.length)
        (lines ++ completeLines (octets.drop place))
  /-- A file that ends before the place is read from the top. -/
  | again {files : List (Option (List UInt8))} {place : Nat} {lines : List (List UInt8)}
      {octets : List UInt8} (taken : Taken files place lines) (shorter : octets.length < place) :
      Taken (files ++ [some octets]) (completeLines octets).flatten.length
        (lines ++ completeLines octets)

/-- Behind the place up to which a file was read, no line of it ends. -/
theorem Taken.waiting {place : Nat} {lines : List (List UInt8)} (h : Taken files place lines)
    (last : files.reduceOption.getLast? = some octets) :
    place ≤ octets.length ∧ 10 ∉ octets.drop place := by
  induction h with
  | nothing => cases last
  | missing _ ih =>
    rw [List.reduceOption_append, List.reduceOption_singleton, Option.toList_none,
      List.append_nil] at last
    exact ih last
  | @onward _ place _ found _ reaches =>
    rw [List.reduceOption_append, List.reduceOption_singleton, Option.toList_some,
      List.getLast?_concat] at last
    obtain rfl := Option.some.inj last
    have hle := Text.length_flatten_completeLines (found.drop place)
    rw [List.length_drop] at hle
    rw [← List.drop_drop]
    exact ⟨by omega, Text.not_mem_drop_completeLines _⟩
  | again =>
    rw [List.reduceOption_append, List.reduceOption_singleton, Option.toList_some,
      List.getLast?_concat] at last
    obtain rfl := Option.some.inj last
    exact ⟨Text.length_flatten_completeLines _, Text.not_mem_drop_completeLines _⟩

/-! ### One refresh -/

/-- Where a refresh begins to read a file: where the last one ended, or at the top if the file is
shorter than that. -/
def place (f : Follower) (octets : List UInt8) : Nat :=
  if octets.length < f.offset then 0 else f.offset

/-- **A refresh reads the complete lines from one place on.** -/
theorem Holds.refresh_reads (hf : f.Holds) (octets : List UInt8) :
    ∃ f' n, f.refresh (some octets) = (f', .ok n) ∧ f'.Holds ∧
      { f with offset := f.place octets }.Reads (completeLines (octets.drop (f.place octets)))
        f' n := by
  have hplaced : ({ f with offset := f.place octets } : Follower).Holds := hf
  have hrefresh : f.refresh (some octets) =
      { f with offset := f.place octets }.readLines
        (completeLines (octets.drop (f.place octets))) := by
    rw [Follower.refresh, place]
    split <;> rfl
  rw [hrefresh]
  exact hplaced.readLines _

/-! ### Many refreshes -/

/-- The state after refreshes of a file that was found in several states or, with `none`, not at
all. -/
def refreshed (files : List (Option (List UInt8))) : Follower :=
  files.foldl (fun f file => (f.refresh file).1) start

theorem refreshed_concat (files : List (Option (List UInt8))) (file : Option (List UInt8)) :
    refreshed (files ++ [file]) = ((refreshed files).refresh file).1 := by
  rw [refreshed, List.foldl_append]
  rfl

/-- The lines that were taken are counted, and their records are stored under their numbers. -/
structure HasTaken (files : List (Option (List UInt8))) (lines : List (List UInt8))
    (f : Follower) : Prop where
  holds : f.Holds
  taken : Taken files f.offset lines
  store : LogStore.empty.addAll (Ndjson.readLines 0 (lines.map decode)) = .ok f.store
  count : f.lines = lines.length

namespace HasTaken

variable {lines : List (List UInt8)}

theorem nothing : HasTaken [] [] start :=
  ⟨LogStore.holds_empty, .nothing, rfl, rfl⟩

theorem records (h : HasTaken files lines f) :
    f.store.Sound ∧ f.store.records = Ndjson.readLines 0 (lines.map decode) := by
  obtain ⟨sound, hrecords⟩ := LogStore.sound_empty.addAll h.store
  exact ⟨sound, hrecords⟩

theorem id_le (h : HasTaken files lines f) {r : Record} (hr : r ∈ f.store.records) :
    r.id ≤ f.lines := by
  rw [h.records.2] at hr
  have hid := (Ndjson.id_of_mem_readLines hr).2
  rwa [Nat.zero_add, List.length_map, ← h.count] at hid

/-- Lines that are read on are taken as well. -/
theorem read (h : HasTaken files lines f) {file : Option (List UInt8)} {place : Nat}
    {ls : List (List UInt8)} (holds : f'.Holds) (reads : { f with offset := place }.Reads ls f' n)
    (taken : Taken (files ++ [file]) (place + ls.flatten.length) (lines ++ ls)) :
    HasTaken (files ++ [file]) (lines ++ ls) f' where
  holds := holds
  taken := reads.offset ▸ taken
  store := by
    have hnumber : 0 + (lines.map decode).length = f.lines := by
      rw [Nat.zero_add, List.length_map, h.count]
    rw [List.map_append, Ndjson.readLines_append, hnumber, LogStore.addAll_append h.store]
    exact reads.store
  count := by
    rw [List.length_append, ← h.count]
    exact reads.lines

/-- **A refresh takes lines**, and stores their records behind those that are there. -/
theorem refresh (h : HasTaken files lines f) (file : Option (List UInt8)) :
    ∃ f' n ls, f.refresh file = (f', .ok n) ∧ HasTaken (files ++ [file]) (lines ++ ls) f' ∧
      f'.store.records = f.store.records ++ Ndjson.readLines f.lines (ls.map decode) ∧
      ∀ octets, file = some octets → ls = completeLines (octets.drop (f.place octets)) := by
  cases file with
  | none =>
    refine ⟨f, 0, [], rfl, ⟨h.holds, ?_, ?_, ?_⟩, ?_, fun octets heq => nomatch heq⟩
    · rw [List.append_nil]
      exact .missing h.taken
    · rw [List.append_nil]
      exact h.store
    · rw [List.append_nil]
      exact h.count
    · exact (List.append_nil _).symm
  | some octets =>
    obtain ⟨f', n, hrefresh, holds, reads⟩ := h.holds.refresh_reads octets
    refine ⟨f', n, _, hrefresh, h.read holds reads ?_, (h.records.1.addAll reads.store).2,
      fun found heq => Option.some.inj heq ▸ rfl⟩
    rw [place]
    split
    · next shorter =>
      rw [Nat.zero_add, List.drop_zero]
      exact h.taken.again shorter
    · next reaches => exact h.taken.onward (Nat.not_lt.mp reaches)

end HasTaken

/-- After any refreshes, all that was taken is counted and stored. -/
theorem hasTaken_refreshed (files : List (Option (List UInt8))) :
    ∃ lines, HasTaken files lines (refreshed files) := by
  induction files using List.reverseRecOn with
  | nil => exact ⟨[], .nothing⟩
  | append_singleton files file ih =>
    obtain ⟨lines, h⟩ := ih
    obtain ⟨f', n, ls, hrefresh, h', -⟩ := h.refresh file
    refine ⟨lines ++ ls, ?_⟩
    rwa [refreshed_concat, hrefresh]

/-- **Ids survive every rotation.**  Let a file be found in several states, each of them any octets,
or not at all.  All complete lines that were taken from it are counted, the records are those of
these lines in order, each under the number of its line, and no id is above the count.  The next
refresh does not fail, whatever it finds.  It leaves the records as they are, and the ids of its
new records are above the count before it.  If it finds the file shorter than what was read of it,
the new records are those of all its lines, whose numbers carry on from this count. -/
theorem ids_survive_rotation (files : List (Option (List UInt8))) :
    ∃ f lines, refreshed files = f ∧ Taken files f.offset lines ∧ f.lines = lines.length ∧
      f.store.records = Ndjson.readLines 0 (lines.map decode) ∧
      (f.store.records.Pairwise fun r r' => r.id < r'.id) ∧
      (∀ r ∈ f.store.records, r.id ≤ f.lines) ∧
      ∀ file, ∃ n new, f.refresh file = (refreshed (files ++ [file]), .ok n) ∧
        (refreshed (files ++ [file])).store.records = f.store.records ++ new ∧
        (∀ r ∈ new, f.lines < r.id) ∧
        ∀ octets, file = some octets → octets.length < f.offset →
          new = Ndjson.readLines f.lines ((completeLines octets).map decode) ∧
          ∀ r, r ∈ new ↔ ∃ number line, LineOf octets number line ∧
            Ndjson.readLine? (decode line) (f.lines + number) = some r := by
  obtain ⟨lines, h⟩ := hasTaken_refreshed files
  refine ⟨_, lines, rfl, h.taken, h.count, h.records.2, h.records.1.ascending,
    fun r hr => h.id_le hr, fun file => ?_⟩
  obtain ⟨f', n, ls, hrefresh, -, hrecords, hls⟩ := h.refresh file
  rw [refreshed_concat, hrefresh]
  refine ⟨n, _, rfl, hrecords, fun r hr => (Ndjson.id_of_mem_readLines hr).1,
    fun octets found shorter => ?_⟩
  have hall : ls = completeLines octets := by
    rw [hls octets found, place, if_pos shorter, List.drop_zero]
  subst hall
  exact ⟨rfl, fun r => Ndjson.mem_readLines_decode⟩

/-! ### Files that have become shorter -/

/-- **When a file is read from the top.**  Let `old` be the file as it was found last.  A last line
may wait for its line feed behind the place up to which `old` was read.  Whatever the next refresh
finds, it begins at the top exactly if nothing was read so far or the file has lost more than this
last line: a file that has become shorter by no more than that is read on.  From the place where
the refresh begins, every line becomes a record, and nothing else does. -/
theorem from_top_iff {old : List UInt8} (last : files.reduceOption.getLast? = some old)
    (octets : List UInt8) :
    ∃ f f' n waiting, refreshed files = f ∧ f.refresh (some octets) = (f', .ok n) ∧
      old = old.take f.offset ++ waiting ∧ 10 ∉ waiting ∧
      (f.place octets = 0 ↔
        f.offset = 0 ∨ octets.length + waiting.length < old.length) ∧
      ∀ r, r ∈ f'.store.records ↔ r ∈ f.store.records ∨
        ∃ number line, LineOf (octets.drop (f.place octets)) number line ∧
          Ndjson.readLine? (decode line) (f.lines + number) = some r := by
  obtain ⟨lines, h⟩ := hasTaken_refreshed files
  obtain ⟨f', n, ls, hrefresh, -, hrecords, hls⟩ := h.refresh (some octets)
  obtain ⟨reaches, whole⟩ := h.taken.waiting last
  refine ⟨_, f', n, _, rfl, hrefresh, (List.take_append_drop ..).symm, whole, ?_, fun r => ?_⟩
  · rw [place, List.length_drop]
    split <;> omega
  · rw [hrecords, hls octets rfl, List.mem_append, Ndjson.mem_readLines_decode]

end Follower

namespace Sample

/-- A file with one entry and the beginning of another one, which waits for its end. -/
def waitingFile : List UInt8 :=
  Text.Utf8.encode ("\x7b\"timestamp\": 1714521600, \"message\": \"up\"\x7d\n" ++
    "\x7b\"timestamp\": 1714521660, \"mess").toList

/-- A new file in its place, with one entry.  It is shorter than the old one, but longer than the
first line of it. -/
def replacedFile : List UInt8 :=
  Text.Utf8.encode "\x7b\"timestamp\": 1714521720, \"message\": \"rotated\"\x7d\n".toList

end Sample

theorem Follower.from_top_iff_of_replacedFile :
    [some Sample.waitingFile, none].reduceOption.getLast? = some Sample.waitingFile ∧
      ∃ f f' n waiting, refreshed [some Sample.waitingFile, none] = f ∧
        f.refresh (some Sample.replacedFile) = (f', .ok n) ∧
        Sample.waitingFile = Sample.waitingFile.take f.offset ++ waiting ∧ 10 ∉ waiting ∧
        (f.place Sample.replacedFile = 0 ↔
          f.offset = 0 ∨ Sample.replacedFile.length + waiting.length < Sample.waitingFile.length) ∧
        ∀ r, r ∈ f'.store.records ↔ r ∈ f.store.records ∨
          ∃ number line,
            LineOf (Sample.replacedFile.drop (f.place Sample.replacedFile)) number line ∧
            Ndjson.readLine? (decode line) (f.lines + number) = some r := by
  have last : [some Sample.waitingFile, none].reduceOption.getLast? = some Sample.waitingFile := rfl
  exact ⟨last, Follower.from_top_iff last Sample.replacedFile⟩

/-- Not every file that has become shorter is read from the top: the entry of one that takes the
place of an unfinished line is lost. -/
theorem Follower.replacedFile_not_from_top :
    ¬∀ (files : List (Option (List UInt8))) (old octets : List UInt8),
      files.reduceOption.getLast? = some old → octets.length < old.length →
        (refreshed files).place octets = 0 ∨
        ∀ number line r, LineOf octets number line →
          Ndjson.readLine? (decode line) ((refreshed files).lines + number) = some r →
          r ∈ (refreshed (files ++ [some octets])).store.records := by
  intro reread
  have shorter : Sample.replacedFile.length < Sample.waitingFile.length := by decide +kernel
  rcases reread [some Sample.waitingFile] _ Sample.replacedFile rfl shorter with top | kept
  · have place : (refreshed [some Sample.waitingFile]).place Sample.replacedFile = 43 := by
      decide +kernel
    rw [place] at top
    exact absurd top (by decide)
  · -- the entry of the new file has the number 2, which no record has
    have ids : (refreshed [some Sample.waitingFile, some Sample.replacedFile]).store.records.map
        (·.id) = [1] := by
      decide +kernel
    have entry : (Ndjson.readLine? (decode Sample.replacedFile)
        ((refreshed [some Sample.waitingFile]).lines + 1)).isSome := by
      decide +kernel
    have line : LineOf Sample.replacedFile 1 Sample.replacedFile := by
      have first : (completeLines Sample.replacedFile)[0]? = some Sample.replacedFile := by
        decide +kernel
      exact Text.lineOf_iff.mpr first
    obtain ⟨r, hr⟩ := Option.isSome_iff_exists.mp entry
    have stored := List.mem_map_of_mem (f := (·.id)) (kept 1 _ r line hr)
    have second : (refreshed [some Sample.waitingFile]).lines = 1 := by decide +kernel
    rw [List.singleton_append, ids, List.mem_singleton, (Ndjson.readLine?_spec hr).1,
      second] at stored
    exact absurd stored (by decide)

end LogAlert
