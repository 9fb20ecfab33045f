import LogAlert.Console.Command
import LogAlert.Console.Report
import LogAlert.Log.Ndjson
import LogAlert.Query.Reading
import LogAlert.Settings

/-!
# The program

What the program does for its arguments, as a script for a terminal.

## Main definitions

* `Ending` : how the program ends.
* `Program.run` : the program.
-/

namespace LogAlert.Console

/-- How the program ends when nothing fails: it did what was asked, it could not, or it was
asked for something that it does not know. -/
inductive Ending where
  | completed
  | refused
  | misused
  deriving DecidableEq, Repr, Inhabited

/-- The exit code of an ending. -/
def Ending.exitCode : Ending → Nat
  | .completed => 0
  | .refused => 1
  | .misused => 2

namespace Program

open Terminal

/-! ### Tokens of a query -/

/-- Shows the tokens of a query at the current whole second. -/
def showTokens (query : String) (asJson : Bool) : Script Terminal Ending := do
  let now ← ask .time
  let tokens ← .ofExcept (Query.parse query.toList now.wholeSecond)
  if asJson then print (Json.arr (tokens.map Report.tokenDocument)).write
  else if tokens.isEmpty then
    complain (Report.styled "yellow" "Query compiles to no tokens (matches everything).")
  else
    tabulate (Report.tokens tokens)
    let canonical ← .ofExcept (Query.toQuery tokens)
    say (Report.styled "dim" ("canonical: " ++ String.ofList canonical))
  pure .completed

/-! ### Search -/

/-- The last part of a path. -/
def fileName (path : String) : String :=
  let parts := (Text.splitOn '/' path.toList).filter fun part => !part.isEmpty && part != ['.']
  String.ofList (parts.getLast?.getD [])

/-- Shows the records of a log file that answer a query.  Limit zero stands for all. -/
def search (path query : String) (limit : Int) (asJson : Bool) : Script Terminal Ending := do
  match ← ask (.readFile path) with
  | none => pure .misused
  | some content =>
    let store ← .ofExcept (Ndjson.load content)
    let now ← ask .time
    let tokens ← .ofExcept (Query.parse query.toList now.wholeSecond)
    let found ← .ofExcept (store.search tokens (if limit == 0 then none else some limit))
    let share := Report.share found.length store.records.length
    if asJson then
      let _ ← Script.mapList (fun r => print (Record.toJson r).write) found
      complain share
    else if found.isEmpty then complain (Report.styled "yellow" "No matching records.")
    else
      tabulate (Report.records (fileName path) found)
      say share
    pure .completed

/-! ### Evaluation -/

/-- Shows the report of a tick. -/
def showTick (counts : Scheduler) (report : Option TickReport) : Script Terminal Unit :=
  let failed : Script Terminal Unit :=
    complain (Report.styled "red" ("Tick failed (" ++ toString counts.failures ++ " in a row)"))
  match report with
  | none => failed
  | some r => if r.loadError.isSome then failed else tabulate (Report.tick r)

/-- Evaluates the stored alerts against a log file, and shows the report. -/
def tickOnce (path : String) : Script Terminal Unit := do
  let answer (r : SchedulingRequest) : Script Terminal r.Answer :=
    match r with
    | .tick => ask (.tick path)
    | .call _ counts report => showTick counts report
  let _ ← (Scheduler.start.runOnce 1).through (I := Scheduling) answer

/-- Evaluates the stored alerts against a log file.  Unless it is to be done once, the interval
of the evaluations and their end, which comes when users interrupt them, are told. -/
def evaluate (settings : Settings) (path : String) (storeUrl : Option String) (once : Bool)
    (interval : Option Binary64) : Script Terminal Ending := do
  match ← ask (.readFile path) with
  | none => pure .misused
  | some _ =>
    let url := storeUrl.getD ""
    ask (.connect (if url == "" then settings.redisUrl else url))
    if ← ask .ping then
      if once then tickOnce path
      else
        let period := interval.getD settings.evaluationInterval
        say (Report.styled "dim"
          ("Evaluating every " ++ String.ofList period.toText ++ "s (Ctrl-C to stop)"))
        tickOnce path
        say ("\n" ++ Report.styled "dim" "Stopping after the current tick…")
        say (Report.styled "dim" "Stopped.")
      pure .completed
    else
      complain (Report.styled "red" "Alert store is unreachable.")
      pure .refused

/-! ### The program -/

/-- The names of the levels of logging. -/
def logLevels : List String :=
  ["CRITICAL", "FATAL", "ERROR", "WARN", "WARNING", "INFO", "DEBUG", "NOTSET"]

/-- A level of logging must be known. -/
def checkLogLevel (settings : Settings) (given : Option String) : Except Failure Unit :=
  let given := given.getD ""
  let level := if given == "" then settings.logLevel else given
  let level := String.ofList (level.toList.map Char.toUpper)
  if logLevels.contains level then .ok ()
  else .error (.value ("Unknown level: " ++ (Json.str level).inspect))

/-- Carries out a command. -/
def carryOut (settings : Settings) (command : Command) : Script Terminal Ending :=
  match command with
  | .tokens query asJson => showTokens query asJson
  | .search path query limit asJson => search path query limit asJson
  | .evaluate path storeUrl once interval => evaluate settings path storeUrl once interval

/-- What the program does for its arguments. -/
def run (settings : Settings) (arguments : List String) : Script Terminal Ending := do
  match Invocation.read? arguments with
  | none => pure .misused
  | some .help => pure .completed
  | some .version =>
    print "logwarden, version 1.0.0"
    pure .completed
  | some (.command logLevel wish) =>
    .ofExcept (checkLogLevel settings logLevel)
    match wish with
    | none => pure .misused
    | some .help => pure .completed
    | some (.command command) => carryOut settings command

end Program

end LogAlert.Console
