import LogAlert.Match.Answer
import LogAlert.Proofs.InstantSurvival
import LogAlert.Proofs.LetterCase

/-!
# Spellings of severities

Queries and log entries spell severities by tables of their own, and only entries are trimmed.  On
a spelling that a query takes both agree, but for three abbreviations that entries do not have: an
entry with one of these counts as unrecognised, and the query does not find it.

## Main definitions

* `Query.abbreviations` : the spellings of severities that only queries have.

## Main results

* `Query.parse_quotedLevel` : the query for a severity in quotation marks.
* `Level.ofText_of_levelOf?` : the two tables side by side.
* `Query.level_found_iff` : which entries a query for their own severity finds.
-/

namespace LogAlert

open Text (lower strip isBlank)

/-! ### Blanks and lower case -/

/-- The lower-case form of a text has all its blanks. -/
theorem Text.mem_lower_of_isBlank {c : Char} {cs : List Char} (hc : c ∈ cs) (blank : isBlank c) :
    c ∈ lower cs := by
  obtain ⟨front, back, rfl⟩ := List.append_of_mem hc
  have dotted : c ≠ '\u0130' := by
    rintro rfl
    exact absurd blank (by decide)
  have sigma : c ≠ '\u03a3' := by
    rintro rfl
    exact absurd blank (by decide)
  have himage : Text.lowerBetween front.reverse [c] back = [c] := by
    rw [Text.lowerBetween, Text.lowerImage_single dotted sigma, Text.lowerChar_of_isBlank blank]
    rfl
  rw [List.append_cons, Text.lower_append, himage]
  simp

/-- A text without blanks in its lower-case form is not changed by trimming. -/
theorem Text.strip_of_lower {cs : List Char} (h : ∀ c ∈ lower cs, isBlank c = false) :
    strip cs = cs := by
  have plain : ∀ c ∈ cs, isBlank c = false := fun c hc =>
    Bool.eq_false_iff.mpr fun blank => by
      rw [h c (mem_lower_of_isBlank hc blank)] at blank
      cases blank
  exact strip_eq_self (fun c hc => plain c (List.mem_of_head? hc))
    fun c hc => plain c (List.mem_of_getLast? hc)

/-! ### Two tables -/

namespace Query

/-- The spellings of severities that only queries have. -/
def abbreviations : List String :=
  ["dbg", "wrn", "err"]

end Query

open Query

/-- **The two tables side by side.**  A spelling that a query takes for a severity is one of the
same severity in an entry, unless it is an abbreviation. -/
theorem Level.ofText_of_levelOf? {cs : List Char} {level : String}
    (h : levelOf? (String.ofList (lower cs)) = some level) :
    ofText cs = if String.ofList (lower cs) ∈ abbreviations then "info" else level := by
  have hall : ∀ p ∈ levelNames, p.1.toList.any isBlank = false ∧
      (if names.contains p.1 then p.1 else if p.1 == "warn" then "warning" else "info") =
        if p.1 ∈ abbreviations then "info" else p.2 := by
    decide
  obtain ⟨p, hp, rfl⟩ := Option.map_eq_some_iff.mp h
  have hname : p.1 = String.ofList (lower cs) := by
    have hbeq := List.find?_some hp
    exact eq_of_beq hbeq
  obtain ⟨blanks, hspelled⟩ := hall p (List.mem_of_find?_eq_some hp)
  rw [hname, String.toList_ofList, List.any_eq_false] at blanks
  rw [hname] at hspelled
  rw [ofText, Text.strip_of_lower fun c hc => Bool.eq_false_iff.mpr (blanks c hc)]
  exact hspelled

/-- An abbreviation does not stand for the severity of what is unrecognised. -/
theorem Query.ne_info_of_abbreviation {name level : String} (h : levelOf? name = some level)
    (abbreviated : name ∈ abbreviations) : "info" ≠ level := by
  have hall : ∀ name ∈ abbreviations, levelOf? name ≠ some "info" := by decide
  rintro rfl
  exact hall name abbreviated h

/-- The severity of a text, which may be empty. -/
theorem Level.normalize_str (s : String) : normalize (.str s) = ofText s.toList := by
  rw [normalize, Json.isTruthy, Json.display]
  split
  · rfl
  · next empty =>
    obtain rfl : s = "" := by simpa using empty
    rfl

/-! ### Queries and records -/

/-- **The query for a severity in quotation marks** is one token, if the table of queries has the
spelling. -/
theorem Query.parse_quotedLevel {s : String} (plain : '"' ∉ s.toList) (now : Moment) :
    parse ("level:\"" ++ s ++ "\"").toList now =
      .ok ((levelOf? (String.ofList (lower s.toList))).map (⟨false, .level ·⟩)).toList := by
  have htext : ("level:\"" ++ s ++ "\"").toList =
      "level".toList ++ ':' :: ('"' :: (s.toList ++ ['"'])) := by
    simp
  have hkey : Lexeme.IsRun "level".toList := Lexeme.isRun_of_all (by decide) (by decide)
  have hvalue : Lexeme.Comparand .quotedPair ('"' :: (s.toList ++ ['"'])) := .quoted plain
  have hextract : Operator.extract ('"' :: (s.toList ++ ['"'])) =
      (.eq, '"' :: (s.toList ++ ['"'])) := rfl
  have hbody : classifyBody ("level".toList ++ ':' :: ('"' :: (s.toList ++ ['"']))) now =
      .ok ((levelOf? (String.ofList (lower s.toList))).map .level) := by
    rw [classifyBody_pair hkey hvalue, classifyPair_append hkey hextract, fieldName_known.1,
      unquote_quoted plain, if_pos (beq_self_eq_true _)]
  have hhead : ("level".toList ++ ':' :: ('"' :: (s.toList ++ ['"']))).head? ≠ some '-' := by
    rw [head?_key hkey]
    decide
  have spelled : Lexeme.Shape.Spelled ⟨false, .quotedPair⟩
      ("level".toList ++ ':' :: ('"' :: (s.toList ++ ['"']))) :=
    (lexeme_of_body (.inr hhead) (.pair hkey hvalue)).1
  rw [htext, parse_single spelled (classify_plain hhead hbody), Option.map_map]
  rfl

theorem Token.holds_level (level : String) (r : Record) :
    (⟨false, .level level⟩ : Token).holds r = .ok (Match.levelMatches r level) := by
  rw [holds, Filter.holds]
  exact congrArg Except.ok (Bool.bne_false _)

/-- A record of an entry has the severity of the entry alone. -/
theorem Record.holds_level_of_ofEntry {id : Int} {entry : Json.Fields} {r : Record} {s : String}
    (hlevel : Json.field? entry "level" = some (.str s)) (h : ofEntry id entry = .ok r)
    (level : String) :
    (⟨false, .level level⟩ : Token).holds r = .ok (Level.normalize (.str s) == level) := by
  have own : Json.field? (entry.filter fun f => !ownKeys.contains f.1) "level" = none := by
    rw [Json.field?, Table.get?, Option.map_eq_none_iff, List.find?_eq_none]
    intro f hf hname
    have other := (List.mem_filter.mp hf).2
    rw [eq_of_beq hname] at other
    exact absurd other (by decide)
  have lifted : r.level = Level.normalize (.str s) ∧ Json.field? r.metadata "level" = none := by
    rw [ofEntry] at h
    split at h
    · cases h
    · rw [← Except.ok.inj h, hlevel, Option.getD_some]
      exact ⟨by dsimp only, own⟩
  rw [Token.holds_level, Match.levelMatches, lifted.1, lifted.2, Bool.or_false]

namespace Query

/-- **An entry is found by a query for its own severity** exactly if the spelling is no
abbreviation.  If it is one, the entry has the severity of what is unrecognised. -/
theorem level_found_iff {s level : String} {now : Moment} (plain : '"' ∉ s.toList)
    (h : parse ("level:\"" ++ s ++ "\"").toList now = .ok [⟨false, .level level⟩]) :
    (Level.normalize (.str s) = level ↔ String.ofList (lower s.toList) ∉ abbreviations) ∧
      (String.ofList (lower s.toList) ∈ abbreviations → Level.normalize (.str s) = "info") ∧
      ∀ (id : Int) (entry : Json.Fields) (r : Record),
        Json.field? entry "level" = some (.str s) → Record.ofEntry id entry = .ok r →
          (⟨false, .level level⟩ : Token).holds r =
            .ok (decide (String.ofList (lower s.toList) ∉ abbreviations)) := by
  have hlevel : levelOf? (String.ofList (lower s.toList)) = some level := by
    have hparse := Except.ok.inj ((parse_quotedLevel plain now).symm.trans h)
    rw [Option.toList_eq_singleton_iff, Option.map_eq_some_iff] at hparse
    obtain ⟨name, hname, htoken⟩ := hparse
    rw [hname, Filter.level.inj (Token.mk.inj htoken).2]
  have hnormal : Level.normalize (.str s) =
      if String.ofList (lower s.toList) ∈ abbreviations then "info" else level := by
    rw [Level.normalize_str, Level.ofText_of_levelOf? hlevel]
  have hiff : Level.normalize (.str s) = level ↔
      String.ofList (lower s.toList) ∉ abbreviations := by
    rw [hnormal]
    split
    · next short => exact iff_of_false (ne_info_of_abbreviation hlevel short) (not_not_intro short)
    · next long => exact iff_of_true rfl long
  refine ⟨hiff, fun short => by rw [hnormal, if_pos short], fun id entry r hfield hentry => ?_⟩
  rw [Record.holds_level_of_ofEntry hfield hentry, ← decide_eq_decide.mpr hiff]
  exact congrArg Except.ok (Bool.beq_eq_decide_eq _ _)

namespace Sample

/-- A time at which queries are read. -/
def asking : Moment :=
  ⟨63850000000000000, some 0⟩

/-- An entry with an abbreviation for its severity. -/
def abbreviated : Json.Fields :=
  [("timestamp", .int 0), ("level", .str "Err")]

end Sample

/-- A short form that both tables have, in capitals. -/
theorem level_found_iff_of_warn :
    '"' ∉ "WARN".toList ∧
      parse ("level:\"" ++ "WARN" ++ "\"").toList Sample.asking =
        .ok [⟨false, .level "warning"⟩] ∧
      Level.normalize (.str "WARN") = "warning" := by
  have plain : '"' ∉ "WARN".toList := by decide
  have hparse : parse ("level:\"" ++ "WARN" ++ "\"").toList Sample.asking =
      .ok [⟨false, .level "warning"⟩] := by
    rw [parse_quotedLevel plain]
    rfl
  exact ⟨plain, hparse, (level_found_iff plain hparse).1.mpr (by decide)⟩

/-- The tables do not agree on all spellings that a query takes, and an entry with an abbreviation
is not found by the query for it. -/
theorem level_missed_of_abbreviation :
    (¬∀ (s level : String) (now : Moment), '"' ∉ s.toList →
      parse ("level:\"" ++ s ++ "\"").toList now = .ok [⟨false, .level level⟩] →
        Level.normalize (.str s) = level) ∧
    ∃ r tokens, Record.ofEntry 1 Sample.abbreviated = .ok r ∧
      parse "level:\"Err\"".toList Sample.asking = .ok tokens ∧
      Token.holdAll tokens r = .ok false := by
  have plain : '"' ∉ "Err".toList := by decide
  have hparse : parse "level:\"Err\"".toList Sample.asking =
      .ok [⟨false, .level "error"⟩] := by
    refine (parse_quotedLevel plain Sample.asking).trans ?_
    rfl
  have differ : (Level.normalize (.str "Err") == "error") = false := rfl
  obtain ⟨r, hr⟩ : ∃ r, Record.ofEntry 1 Sample.abbreviated = .ok r := ⟨_, rfl⟩
  have hlevel : Json.field? Sample.abbreviated "level" = some (.str "Err") := by rfl
  refine ⟨fun agree => ?_, r, _, hr, hparse, ?_⟩
  · exact absurd (agree "Err" "error" Sample.asking plain hparse) (ne_of_beq_false differ)
  · rw [Token.holdAll, Record.holds_level_of_ofEntry hlevel hr, differ]
    rfl

end Query

end LogAlert
