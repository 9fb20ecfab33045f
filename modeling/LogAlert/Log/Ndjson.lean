import LogAlert.Json.Reader
import LogAlert.Log.Store
import LogAlert.Text.Line
import LogAlert.Text.Utf8

/-!
# Log files

A log file has one JSON object per line.  The record of a line has the line's number as its
id; a line that is no object with a usable time is skipped.

## Main definitions

* `Ndjson.readLine?` : the record of a line.
* `Ndjson.load` : the records of a whole file.
-/

namespace LogAlert.Ndjson

/-- The record of a line. -/
def readLine? (line : List Char) (number : Nat) : Option Record :=
  match Json.read (Text.strip line) with
  | .ok (.obj entry) => (Record.ofEntry number entry).toOption
  | _ => none

/-- The records of lines, the first of which has the number after `number`. -/
def readLines (number : Nat) : List (List Char) → List Record
  | [] => []
  | line :: lines => (readLine? line (number + 1)).toList ++ readLines (number + 1) lines

/-- The store of a whole file.  All kinds of line breaks end lines, and the last line may lack
one. -/
def load (octets : List UInt8) : Except Failure LogStore :=
  let text := Text.unifyBreaks (Text.Utf8.decode octets)
  LogStore.empty.addAll (readLines 0 (Text.lines text))

end LogAlert.Ndjson
