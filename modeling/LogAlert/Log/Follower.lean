import LogAlert.Log.Ndjson

/-!
# Following a log file

A store over a log file that grows.  A refresh reads the lines that were completed since the
last one; a last line without its line feed waits for the next refresh.  When the file has
become shorter than what was read of it, reading starts at its top again, and the numbers of
lines carry on.

## Main definitions

* `Follower` : the state of following a file.
* `Follower.refresh` : reading what was added to the file.
-/

namespace LogAlert

/-- The records read from a file, how many octets of it are read, and how many lines were. -/
structure Follower where
  store : LogStore
  offset : Nat
  lines : Nat
  deriving Repr, Inhabited

namespace Follower

/-- Nothing read. -/
def start : Follower :=
  ⟨.empty, 0, 0⟩

/-- Reads one line.  The line counts as read even if its record cannot be stored. -/
def readLine (f : Follower) (line : List UInt8) : Follower × Except Failure Nat :=
  let number := f.lines + 1
  let f := { f with offset := f.offset + line.length, lines := number }
  match Ndjson.readLine? (Text.Utf8.decode line) number with
  | none => (f, .ok 0)
  | some r =>
    match f.store.add r with
    | .ok store => ({ f with store }, .ok 1)
    | .error e => (f, .error e)

/-- Reads lines up to the first failure, and counts the records. -/
def readLines (f : Follower) : List (List UInt8) → Follower × Except Failure Nat
  | [] => (f, .ok 0)
  | line :: lines =>
    match f.readLine line with
    | (f, .error e) => (f, .error e)
    | (f, .ok n) =>
      match f.readLines lines with
      | (f, .ok m) => (f, .ok (n + m))
      | (f, .error e) => (f, .error e)

/-- Reads what was added to the file, if there is one, and counts the new records. -/
def refresh (f : Follower) (file : Option (List UInt8)) : Follower × Except Failure Nat :=
  match file with
  | none => (f, .ok 0)
  | some octets =>
    let f := if octets.length < f.offset then { f with offset := 0 } else f
    f.readLines (Text.completeLines (octets.drop f.offset))

end Follower

end LogAlert
