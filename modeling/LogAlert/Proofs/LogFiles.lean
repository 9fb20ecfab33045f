import LogAlert.Proofs.Answering
import LogAlert.Proofs.Characters
import LogAlert.Proofs.Lines
import LogAlert.Proofs.ReachableStores
import Mathlib.Data.List.Chain
import Mathlib.Data.List.Forall2

/-!
# Reading log files in parts and as a whole

What is read of a file that grows depends on the file alone, and not on where it was cut when it
was read before.  A refresh reads complete lines, so the next one goes on where a line begins,
whatever became of the octets after the last line feed in between.  Decoding line by line yields
what decoding the whole file yields, since no character goes on behind a line feed.

## Main definitions

* `Follower.follow` : the refreshes of a file that is found in several states.

## Main results

* `Follower.readLines_append`, `Follower.refresh_grown` : reading on is reading from the start.
* `Follower.follow_eq_refresh` : several refreshes of a file that grows are one refresh.
* `Ndjson.load_eq_refresh` : both ways of reading a file find the same records.
-/

namespace LogAlert

open LogAlert.Text (LineOf completeLines)
open LogAlert.Text.Utf8 (decode)

/-! ### Records of lines -/

namespace Ndjson

theorem readLines_append (number : Nat) (ls ms : List (List Char)) :
    readLines number (ls ++ ms) = readLines number ls ++ readLines (number + ls.length) ms := by
  induction ls generalizing number with
  | nil => rfl
  | cons l ls ih =>
    rw [List.cons_append, readLines, readLines, ih, List.append_assoc, List.length_cons,
      Nat.add_right_comm, Nat.add_assoc]

theorem mem_readLines {r : Record} {number : Nat} {lines : List (List Char)} :
    r ∈ readLines number lines ↔
      ∃ i line, lines[i]? = some line ∧ readLine? line (number + i + 1) = some r := by
  induction lines generalizing number with
  | nil => simp [readLines]
  | cons line lines ih =>
    rw [readLines, List.mem_append, Option.mem_toList, ih]
    constructor
    · rintro (first | ⟨i, l, hl, hr⟩)
      · exact ⟨0, line, rfl, first⟩
      · exact ⟨i + 1, l, hl, by rwa [Nat.add_right_comm number 1 i] at hr⟩
    · rintro ⟨i, l, hl, hr⟩
      cases i with
      | zero =>
        obtain rfl := Option.some.inj hl
        exact .inl hr
      | succ i => exact .inr ⟨i, l, hl, by rwa [Nat.add_right_comm number 1 i]⟩

/-- The records of a file are those of its lines, each under the number of its line. -/
theorem mem_readLines_decode {r : Record} {number : Nat} {octets : List UInt8} :
    r ∈ readLines number ((completeLines octets).map decode) ↔
      ∃ k line, LineOf octets k line ∧ readLine? (decode line) (number + k) = some r := by
  rw [mem_readLines]
  constructor
  · rintro ⟨i, text, htext, hr⟩
    rw [List.getElem?_map, Option.map_eq_some_iff] at htext
    obtain ⟨line, hline, rfl⟩ := htext
    exact ⟨i + 1, line, Text.lineOf_iff.mpr hline, hr⟩
  · rintro ⟨k, line, hline, hr⟩
    obtain ⟨i, rfl⟩ : ∃ i, k = i + 1 := by
      cases hline
      exact ⟨_, rfl⟩
    refine ⟨i, decode line, ?_, hr⟩
    rw [List.getElem?_map, Text.lineOf_iff.mp hline]
    rfl

/-- Blanks at the ends of a line make no difference. -/
theorem readLine?_congr {line line' : List Char} (h : Text.strip line = Text.strip line')
    (number : Nat) : readLine? line number = readLine? line' number := by
  rw [readLine?, readLine?, h]

theorem readLines_congr {lines lines' : List (List Char)}
    (h : List.Forall₂ (fun l l' => Text.strip l = Text.strip l') lines lines') (number : Nat) :
    readLines number lines = readLines number lines' := by
  induction h generalizing number with
  | nil => rfl
  | cons hline _ ih => rw [readLines, readLines, readLine?_congr hline, ih]

end Ndjson

namespace LogStore

theorem records_of_add {s s' : LogStore} {r : Record} (h : s.add r = .ok s') :
    s'.records = s.records ++ [r] := by
  rw [add] at h
  split at h
  · cases h
  · rw [← Except.ok.inj h]

theorem addAll_cons {s s' : LogStore} {r : Record} (h : s.add r = .ok s') (rs : List Record) :
    s.addAll (r :: rs) = s'.addAll rs := by
  rw [addAll, h]
  rfl

theorem exists_of_addAll_cons {s s' : LogStore} {r : Record} {rs : List Record}
    (h : s.addAll (r :: rs) = .ok s') : ∃ t, s.add r = .ok t ∧ t.addAll rs = .ok s' := by
  cases hadd : s.add r with
  | error e =>
    rw [addAll, hadd] at h
    cases h
  | ok t => exact ⟨t, rfl, by rwa [addAll_cons hadd] at h⟩

theorem addAll_append {s s' : LogStore} {rs : List Record} (h : s.addAll rs = .ok s')
    (us : List Record) : s.addAll (rs ++ us) = s'.addAll us := by
  induction rs generalizing s with
  | nil =>
    obtain rfl := Except.ok.inj h
    rfl
  | cons r rs ih =>
    obtain ⟨t, hadd, hrest⟩ := exists_of_addAll_cons h
    rw [List.cons_append, addAll_cons hadd, ih hrest]

/-- The records are stored after those that are there, and their ids ascend. -/
theorem Sound.addAll {s s' : LogStore} (hs : s.Sound) {rs : List Record}
    (h : s.addAll rs = .ok s') : s'.Sound ∧ s'.records = s.records ++ rs := by
  induction rs generalizing s with
  | nil =>
    obtain rfl := Except.ok.inj h
    exact ⟨hs, (List.append_nil _).symm⟩
  | cons r rs ih =>
    obtain ⟨t, hadd, hrest⟩ := exists_of_addAll_cons h
    obtain ⟨hs', hrecords⟩ := ih (hs.extends (extends_of_add hadd)) hrest
    rw [records_of_add hadd, List.append_assoc, List.singleton_append] at hrecords
    exact ⟨hs', hrecords⟩

end LogStore

/-! ### Reading on -/

namespace Follower

variable {f f' : Follower} {n : Nat}

/-- What reading lines leads to: their records are stored and counted, and they are read. -/
structure Reads (f : Follower) (ls : List (List UInt8)) (f' : Follower) (n : Nat) : Prop where
  store : f.store.addAll (Ndjson.readLines f.lines (ls.map decode)) = .ok f'.store
  count : n = (Ndjson.readLines f.lines (ls.map decode)).length
  offset : f'.offset = f.offset + ls.flatten.length
  lines : f'.lines = f.lines + ls.length

theorem reads_of_readLine {line : List UInt8} (h : f.readLine line = (f', .ok n)) :
    f.Reads [line] f' n := by
  rw [readLine] at h
  dsimp only at h
  split at h
  · next hline =>
    obtain ⟨rfl, hn⟩ := Prod.mk.inj h
    obtain rfl := Except.ok.inj hn
    have none : Ndjson.readLines f.lines [decode line] = [] := by
      rw [Ndjson.readLines, hline]
      rfl
    constructor
    · rw [List.map_singleton, none]
      rfl
    · rw [List.map_singleton, none]
      rfl
    · simp
    · rfl
  · next r hline =>
    have one : Ndjson.readLines f.lines [decode line] = [r] := by
      rw [Ndjson.readLines, hline]
      rfl
    split at h
    · next s hadd =>
      obtain ⟨rfl, hn⟩ := Prod.mk.inj h
      obtain rfl := Except.ok.inj hn
      constructor
      · rw [List.map_singleton, one, LogStore.addAll_cons hadd]
        rfl
      · rw [List.map_singleton, one]
        rfl
      · simp
      · rfl
    · cases h

theorem Reads.refl (f : Follower) : f.Reads [] f 0 :=
  ⟨rfl, rfl, rfl, rfl⟩

theorem Reads.trans {ls ms : List (List UInt8)} {f'' : Follower} {m : Nat}
    (first : f.Reads ls f' n) (second : f'.Reads ms f'' m) :
    f.Reads (ls ++ ms) f'' (n + m) := by
  have records : Ndjson.readLines f.lines ((ls ++ ms).map decode) =
      Ndjson.readLines f.lines (ls.map decode) ++ Ndjson.readLines f'.lines (ms.map decode) := by
    rw [List.map_append, Ndjson.readLines_append, List.length_map, first.lines]
  constructor
  · rw [records, LogStore.addAll_append first.store, second.store]
  · rw [records, List.length_append, first.count, second.count]
  · rw [second.offset, first.offset, List.flatten_append, List.length_append, Nat.add_assoc]
  · rw [second.lines, first.lines, List.length_append, Nat.add_assoc]

/-- Lines lead to one state only. -/
theorem Reads.unique {ls : List (List UInt8)} {g : Follower} {m : Nat} (h : f.Reads ls f' n)
    (h' : f.Reads ls g m) : f' = g ∧ n = m := by
  obtain ⟨store, count, offset, lines⟩ := h
  obtain ⟨store', count', offset', lines'⟩ := h'
  refine ⟨?_, count.trans count'.symm⟩
  cases f'
  cases g
  rw [mk.injEq]
  exact ⟨Except.ok.inj (store.symm.trans store'), offset.trans offset'.symm,
    lines.trans lines'.symm⟩

theorem reads_of_readLines {ls : List (List UInt8)} (h : f.readLines ls = (f', .ok n)) :
    f.Reads ls f' n := by
  induction ls generalizing f n with
  | nil =>
    obtain ⟨rfl, hn⟩ := Prod.mk.inj h
    obtain rfl := Except.ok.inj hn
    exact .refl f
  | cons l ls ih =>
    rw [readLines] at h
    split at h
    · cases h
    · next g k hline =>
      split at h
      · next f'' m hlines =>
        obtain ⟨rfl, hn⟩ := Prod.mk.inj h
        obtain rfl := Except.ok.inj hn
        exact (reads_of_readLine hline).trans (ih hlines)
      · cases h

/-- **Lines are always read**, each of them and nothing else. -/
theorem Holds.readLines (hf : f.Holds) (ls : List (List UInt8)) :
    ∃ f' n, f.readLines ls = (f', .ok n) ∧ f'.Holds ∧ f.Reads ls f' n := by
  obtain ⟨hf', n, hn⟩ := readLines_ok hf ls
  have heq : f.readLines ls = ((f.readLines ls).1, .ok n) := Prod.ext rfl hn
  exact ⟨_, n, heq, hf', reads_of_readLines heq⟩

/-! ### A file that grows -/

/-- What reading the complete lines of a file from the start leads to. -/
structure HasRead (octets : List UInt8) (f : Follower) (n : Nat) : Prop where
  holds : f.Holds
  reads : start.Reads (completeLines octets) f n

theorem hasRead_nil : HasRead [] start 0 :=
  ⟨LogStore.holds_empty, .refl start⟩

/-- **A refresh goes on where the last one ended**, and has then read what a first refresh would
have read. -/
theorem HasRead.refresh {octets grown : List UInt8} (h : HasRead octets f n)
    (prefixed : octets <+: grown) :
    ∃ f' m, f.refresh (some grown) = (f', .ok m) ∧ HasRead grown f' (n + m) := by
  obtain ⟨more, rfl⟩ := prefixed
  have hoffset : f.offset = (completeLines octets).flatten.length := by
    rw [h.reads.offset]
    exact Nat.zero_add _
  have whole : ¬(octets ++ more).length < f.offset := by
    have := Text.length_flatten_completeLines octets
    rw [List.length_append]
    omega
  obtain ⟨f', m, hread, holds, reads⟩ :=
    h.holds.readLines (completeLines ((octets ++ more).drop f.offset))
  refine ⟨f', m, ?_, holds, ?_⟩
  · rw [Follower.refresh, if_neg whole, hread]
  · rw [Text.completeLines_append, ← hoffset]
    exact h.reads.trans reads

theorem HasRead.unique {octets : List UInt8} {g : Follower} {m : Nat} (h : HasRead octets f n)
    (h' : HasRead octets g m) : f = g ∧ n = m :=
  h.reads.unique h'.reads

/-- The refreshes of a file that is found in several states, one after the other. -/
def follow (f : Follower) : List (List UInt8) → Follower × List (Except Failure Nat)
  | [] => (f, [])
  | octets :: files =>
    match f.refresh (some octets) with
    | (f, count) =>
      match f.follow files with
      | (f, counts) => (f, count :: counts)

/-- Following a file that grows reads what it has at last. -/
theorem HasRead.follow {octets : List UInt8} (h : HasRead octets f n) {files : List (List UInt8)}
    (grows : (octets :: files).IsChain (· <+: ·)) :
    ∃ f' : Follower, ∃ counts : List Nat, f.follow files = (f', counts.map .ok) ∧
      HasRead (files.getLastD octets) f' (n + counts.sum) := by
  induction files generalizing octets f n with
  | nil => exact ⟨f, [], rfl, h⟩
  | cons grown files ih =>
    obtain ⟨prefixed, grows⟩ := List.isChain_cons_cons.mp grows
    obtain ⟨g, m, hrefresh, hread⟩ := h.refresh prefixed
    obtain ⟨f', counts, hfollow, hlast⟩ := ih hread grows
    refine ⟨f', m :: counts, ?_, ?_⟩
    · rw [Follower.follow, hrefresh]
      dsimp only
      rw [hfollow]
      rfl
    · rw [List.getLastD_cons, List.sum_cons, ← Nat.add_assoc]
      exact hlast

/-- The stored records are those of the lines, in ascending order. -/
theorem HasRead.records {octets : List UInt8} (h : HasRead octets f n) :
    f.store.Sound ∧
      f.store.records = Ndjson.readLines 0 ((completeLines octets).map decode) := by
  obtain ⟨sound, hrecords⟩ := LogStore.sound_empty.addAll h.reads.store
  exact ⟨sound, hrecords⟩

theorem HasRead.mem_records {octets : List UInt8} (h : HasRead octets f n) {r : Record} :
    r ∈ f.store.records ↔ ∃ number line, LineOf octets number line ∧
      Ndjson.readLine? (decode line) number = some r ∧ r.id = number := by
  simp only [h.records.2, Ndjson.mem_readLines_decode, Nat.zero_add]
  constructor
  · rintro ⟨number, line, hline, hr⟩
    exact ⟨number, line, hline, hr, (Ndjson.readLine?_spec hr).1⟩
  · rintro ⟨number, line, hline, hr, -⟩
    exact ⟨number, line, hline, hr⟩

/-- **Refreshes of a file that grows are one refresh.**  Let a file be found in several states,
each of them the start of the next, cut at any octet.  Following it leads to the records, the
offset and the number of lines that reading its last state at once leads to.  The refreshes count
as many records as there are, and these are the ones of the lines of the file, each with the number
of its line as its id, in ascending order. -/
theorem follow_eq_refresh {files : List (List UInt8)} (grows : files.IsChain (· <+: ·))
    {octets : List UInt8} (last : files.getLast? = some octets) :
    ∃ f : Follower, ∃ counts : List Nat, start.follow files = (f, counts.map .ok) ∧
      start.refresh (some octets) = (f, .ok counts.sum) ∧
      counts.sum = f.store.records.length ∧
      f.offset = (completeLines octets).flatten.length ∧
      f.lines = (completeLines octets).length ∧
      (∀ r, r ∈ f.store.records ↔ ∃ number line, LineOf octets number line ∧
        Ndjson.readLine? (decode line) number = some r ∧ r.id = number) ∧
      f.store.records.Pairwise fun r r' => r.id < r'.id := by
  have fromNothing : ([] :: files).IsChain (· <+: ·) :=
    grows.cons fun _ _ => List.nil_prefix
  obtain ⟨f, counts, hfollow, hread⟩ := hasRead_nil.follow fromNothing
  rw [List.getLastD_eq_getLast?, last, Option.getD_some, Nat.zero_add] at hread
  obtain ⟨g, m, hrefresh, hread'⟩ := hasRead_nil.refresh (List.nil_prefix (l := octets))
  obtain ⟨rfl, hcount⟩ := hread.unique hread'
  rw [Nat.zero_add] at hcount
  refine ⟨f, counts, hfollow, by rw [hrefresh, hcount], ?_, ?_, ?_, fun _ => hread.mem_records,
    hread.records.1.ascending⟩
  · rw [hread.records.2]
    exact hread.reads.count
  · rw [hread.reads.offset]
    exact Nat.zero_add _
  · rw [hread.reads.lines]
    exact Nat.zero_add _

end Follower

namespace Sample

/-- Two entries and between them a line that is none.  The second entry has a character of two
octets, and the last line is not complete. -/
def grownFile : List UInt8 :=
  Text.Utf8.encode ("\x7b\"timestamp\": 1714521600, \"message\": \"up\"\x7d\nnone\n" ++
    "\x7b\"timestamp\": 1714521660, \"message\": \"caf\u00e9\"\x7d\n\x7b\"time").toList

/-- The file cut in its first line, after its second line, and within the character. -/
def cuts : List (List UInt8) :=
  [grownFile.take 20, grownFile.take 48, grownFile.take 90, grownFile]

end Sample

theorem Follower.follow_eq_refresh_of_cuts :
    Sample.cuts.IsChain (· <+: ·) ∧ Sample.cuts.getLast? = some Sample.grownFile ∧
      ∃ f : Follower, ∃ counts : List Nat, start.follow Sample.cuts = (f, counts.map .ok) ∧
        start.refresh (some Sample.grownFile) = (f, .ok counts.sum) ∧
        counts.sum = f.store.records.length ∧
        f.store.records.map (·.id) = [1, 3] := by
  have grows : Sample.cuts.IsChain (· <+: ·) := by decide +kernel
  have last : Sample.cuts.getLast? = some Sample.grownFile := rfl
  obtain ⟨f, counts, hfollow, hrefresh, hcount, -⟩ := Follower.follow_eq_refresh grows last
  have ids : (start.follow Sample.cuts).1.store.records.map (·.id) = [1, 3] := by decide +kernel
  rw [hfollow] at ids
  exact ⟨grows, last, f, counts, hfollow, hrefresh, hcount, ids⟩

/-! ### Both ways of reading a file -/

namespace Text

/-- A carriage return in a line stands right before its line feed. -/
theorem eq_append_return {body later : List UInt8} (hbody : 10 ∉ body)
    (breaks : ∀ before after, body ++ 10 :: later = before ++ 13 :: after →
      after.head? = some 10)
    (returned : 13 ∈ body) : ∃ plain, body = plain ++ [13] ∧ 13 ∉ plain := by
  obtain ⟨plain, rest, rfl, hplain⟩ := List.eq_append_cons_of_mem returned
  have hnext := breaks plain (rest ++ 10 :: later) (by rw [List.append_assoc]; rfl)
  cases rest with
  | nil => exact ⟨plain, rfl, hplain⟩
  | cons b rest =>
    obtain rfl := Option.some.inj hnext
    exact absurd (by simp) hbody

/-- The decoded first line, without its line break, is the first line of the decoded file, in
which a carriage return before the line feed makes no difference. -/
theorem decode_firstLine {body later : List UInt8} (hbody : 10 ∉ body)
    (breaks : ∀ before after, body ++ 10 :: later = before ++ 13 :: after →
      after.head? = some 10) :
    ∃ text ending, decode (body ++ [10]) = text ++ ending ∧ (∀ c ∈ ending, isBlank c) ∧
      '\n' ∉ text ∧
      unifyBreaks (decode (body ++ 10 :: later)) = text ++ '\n' :: unifyBreaks (decode later) := by
  -- the characters of line breaks come from their octets
  have feed {octets : List UInt8} (h : 10 ∉ octets) : '\n' ∉ decode octets :=
    fun mem => h (Utf8.mem_of_mem_decode (x := 10) (by decide) (by decide) mem)
  have unreturned {octets : List UInt8} (h : 13 ∉ octets) : '\r' ∉ decode octets :=
    fun mem => h (Utf8.mem_of_mem_decode (x := 13) (by decide) (by decide) mem)
  have atFeed (octets more : List UInt8) :
      decode (octets ++ 10 :: more) = decode octets ++ '\n' :: decode more :=
    Utf8.decode_append_ascii (by decide) octets more
  have atReturn (octets more : List UInt8) :
      decode (octets ++ 13 :: more) = decode octets ++ '\r' :: decode more :=
    Utf8.decode_append_ascii (by decide) octets more
  by_cases returned : 13 ∈ body
  · obtain ⟨plain, rfl, hplain⟩ := eq_append_return hbody breaks returned
    have hfeed (more : List UInt8) : decode (plain ++ [13] ++ 10 :: more) =
        decode plain ++ '\r' :: '\n' :: decode more := by
      rw [atFeed, atReturn, Utf8.decode, List.append_assoc, List.singleton_append]
    refine ⟨decode plain, ['\r', '\n'], ?_, by simp [isBlank], feed fun mem => ?_, ?_⟩
    · rw [hfeed, Utf8.decode]
    · exact hbody (List.mem_append_left _ mem)
    · rw [hfeed, unifyBreaks_append (unreturned hplain)]
      rfl
  · refine ⟨decode body, ['\n'], ?_, by simp [isBlank], feed hbody, ?_⟩
    · rw [atFeed, Utf8.decode]
    · rw [atFeed, unifyBreaks_append (unreturned returned)]
      rfl

/-- The lines of the decoded file are the decoded lines, but for the blanks at their ends. -/
theorem lines_decode {octets : List UInt8} (ended : ∀ b ∈ octets.getLast?, b = 10)
    (breaks : ∀ before after, octets = before ++ 13 :: after → after.head? = some 10) :
    List.Forall₂ (fun l l' => strip l = strip l') (lines (unifyBreaks (decode octets)))
      ((completeLines octets).map decode) := by
  induction octets using octetLineInduction with
  | rest tail h =>
    obtain rfl := eq_nil_of_open ended h
    rw [Utf8.decode]
    exact .nil
  | line body later hbody ih =>
    obtain ⟨text, ending, hline, blank, whole, hfile⟩ := decode_firstLine hbody breaks
    rw [completeLines_line hbody, List.map_cons, hline, hfile, lines_line whole]
    refine .cons ?_ (ih (fun b hb => ended b (getLast?_later hb)) fun before after hsplit => ?_)
    · rw [strip_append_blanks blank, strip_append_blanks (by simp [isBlank])]
    · exact breaks (body ++ 10 :: before) after (by rw [hsplit, List.append_assoc]; rfl)

end Text

/-- **Both ways of reading a file find the same records.**  Let a file be empty or end in a line
feed, and let a line feed follow every carriage return.  Then the store of the decoded file, read
as a text with any line breaks, is the one of a file that is followed, read line by line. -/
theorem Ndjson.load_eq_refresh {octets : List UInt8} (ended : ∀ b ∈ octets.getLast?, b = 10)
    (breaks : ∀ i : Nat, octets[i]? = some 13 → octets[i + 1]? = some 10) :
    ∃ f n, Follower.start.refresh (some octets) = (f, .ok n) ∧
      Ndjson.load octets = .ok f.store := by
  obtain ⟨f, n, hrefresh, hread⟩ := Follower.hasRead_nil.refresh (List.nil_prefix (l := octets))
  refine ⟨f, n, hrefresh, ?_⟩
  have hlines := Text.lines_decode ended fun before after hsplit => by
    subst hsplit
    simpa [List.getElem?_append_right, List.head?_eq_getElem?] using breaks before.length
  rw [Ndjson.load, Ndjson.readLines_congr hlines]
  exact hread.reads.store

namespace Sample

/-- Two entries with either line break.  The first has the start of a character that its text
breaks off, and the second an octet that starts none. -/
def brokenFile : List UInt8 :=
  Text.Utf8.encode "\x7b\"timestamp\": 1714521600, \"message\": \"up ".toList ++ [0xe2, 0x82] ++
    Text.Utf8.encode "\"\x7d\r\n\x7b\"timestamp\": 1714521660, \"message\": \"".toList ++ [0xff] ++
    Text.Utf8.encode "\"\x7d\n".toList

end Sample

theorem Ndjson.load_eq_refresh_of_brokenFile :
    (∀ b ∈ Sample.brokenFile.getLast?, b = 10) ∧
      (∀ i : Nat, Sample.brokenFile[i]? = some 13 → Sample.brokenFile[i + 1]? = some 10) ∧
      ∃ f n, Follower.start.refresh (some Sample.brokenFile) = (f, .ok n) ∧
        Ndjson.load Sample.brokenFile = .ok f.store ∧
        f.store.records.map (·.message) = ["up \ufffd", "\ufffd"] := by
  have ended : ∀ b ∈ Sample.brokenFile.getLast?, b = 10 := by decide +kernel
  have breaks (i : Nat) (h : Sample.brokenFile[i]? = some 13) :
      Sample.brokenFile[i + 1]? = some 10 := by
    have within : ∀ i < Sample.brokenFile.length,
        Sample.brokenFile[i]? = some 13 → Sample.brokenFile[i + 1]? = some 10 := by
      decide +kernel
    exact within i (List.getElem?_eq_some_iff.mp h).1 h
  obtain ⟨f, n, hrefresh, hload⟩ := Ndjson.load_eq_refresh ended breaks
  have messages : (Follower.start.refresh (some Sample.brokenFile)).1.store.records.map (·.message)
      = ["up \ufffd", "\ufffd"] := by
    decide +kernel
  rw [hrefresh] at messages
  exact ⟨ended, breaks, f, n, hrefresh, hload, messages⟩

end LogAlert
