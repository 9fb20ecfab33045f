import LogAlert.Console.Program
import Std.Time.DateTime.Timestamp

/-!
# The program on the command line

The outer layer: it takes the arguments, the environment, files and the time from the system,
and prints.  No client for key-value servers is built in, so the alert store never answers.
-/

namespace LogAlert.Main

open Console

/-- The time. -/
def currentTime : IO Moment := do
  let t ← Std.Time.Timestamp.now
  let nanoseconds := t.val.second.val * 1000000000 + t.val.nano.val
  pure ⟨Moment.epoch + nanoseconds / 1000, some 0⟩

/-- Prints lines. -/
def printLines (stream : IO.FS.Stream) (lines : List String) : IO Unit :=
  lines.forM fun line => stream.putStr (line ++ "\n")

/-- The answer to a request of a command. -/
def answer (r : TerminalRequest) : IO (Except Failure r.Answer) :=
  match r with
  | .time => do pure (.ok (← currentTime))
  | .readFile path => do
    try
      let octets ← IO.FS.readBinFile path
      pure (.ok (some octets.toList))
    catch _ => pure (.ok none)
  | .print line => do
    printLines (← IO.getStdout) [line]
    pure (.ok ())
  | .display item => do
    printLines (← IO.getStdout) item.lines
    pure (.ok ())
  | .complain item => do
    printLines (← IO.getStderr) item.lines
    pure (.ok ())
  | .connect _ => pure (.ok ())
  | .ping => pure (.ok false)
  | .tick _ => pure (.error (.store "there is no alert store"))

/-- A script at the terminal. -/
def perform {α : Type} : Script Terminal α → IO (Except Failure α)
  | .done result => pure result
  | .ask r next => do perform (next (← answer r))

/-- The variables of the environment that set something. -/
def environment : IO (Table String String) := do
  let found ← Settings.variableNames.mapM fun name => do
    pure ((← IO.getEnv name).map fun value => (name, value))
  pure (found.filterMap id)

/-- The program with the given arguments, and its exit code. -/
def run (arguments : List String) : IO UInt32 := do
  match Settings.fromEnvironment (← environment) with
  | .error names => do
    printLines (← IO.getStderr) (names.map fun name => "invalid setting: " ++ name)
    pure 1
  | .ok settings =>
    match ← perform (Program.run settings arguments) with
    | .ok ending => pure ending.exitCode.toUInt32
    | .error e => do
      printLines (← IO.getStderr) [e.inspect]
      pure 1

end LogAlert.Main

/-- The program on the command line. -/
def main (arguments : List String) : IO UInt32 :=
  LogAlert.Main.run arguments
