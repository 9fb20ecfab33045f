import LogAlert.Alert.Basic

/-!
# Notification texts

The words in which a trigger is told to users: the subject and body of a mail, and the title
and message of a short note.

## Main definitions

* `Message.windowText` : a length of time in words.
* `Message.subject`, `Message.body` : for mail.
* `Message.title`, `Message.note` : for short notes.
-/

namespace LogAlert.Message

/-- The lengths of time with words of their own, long and short. -/
def windowNames : List (Int × String × String) :=
  [(60, "1 minute", "1m"), (300, "5 minutes", "5m"), (900, "15 minutes", "15m"),
    (3600, "1 hour", "1h")]

/-- A number of seconds in words. -/
def windowText (seconds : Json) (short : Bool) : Except Failure String :=
  match seconds with
  | .arr _ | .obj _ => .error (.type ("unhashable type: '" ++ seconds.kindName ++ "'"))
  | _ =>
    match windowNames.find? fun w => seconds.same (.int w.1) with
    | some (_, longName, shortName) => .ok (if short then shortName else longName)
    | none => .ok (seconds.display ++ (if short then "s" else " seconds"))

/-- A fact about a trigger, null if it is unknown. -/
def fact (data : Json) (key : String) : Except Failure Json :=
  match data with
  | .obj fields => .ok ((Json.field? fields key).getD .null)
  | v => .error (.lacks v "get")

/-- A fact about a trigger as text. -/
def factText (data : Json) (key : String) : Except Failure String :=
  (fact data key).map Json.display

/-- The subject of a mail. -/
def subject (a : Alert) (type : AlertType) : String :=
  match type with
  | .velocity => "[logwarden] Velocity Alert: " ++ a.settings.name.display
  | .anyMatch => "[logwarden] Alert: " ++ a.settings.name.display

/-- Lines, each with its line feed. -/
def linesText (lines : List String) : String :=
  String.join (lines.map (· ++ "\n"))

/-- The body of a mail. -/
def body (a : Alert) (type : AlertType) (data : Json) : Except Failure String := do
  let name := "Alert: " ++ a.settings.name.display
  let query := "Query: " ++ a.settings.searchQuery.display
  match type with
  | .velocity =>
    let count ← factText data "count"
    let threshold ← factText data "threshold"
    let window ← windowText (← fact data "window_seconds") false
    .ok (linesText
      [name, "Type: Log Velocity", "", "Log velocity exceeded threshold.", "", query, "",
        "Details:", "- Count: " ++ count ++ " logs", "- Threshold: " ++ threshold ++ " logs",
        "- Time Window: " ++ window])
  | .anyMatch =>
    let level ← factText data "log_level"
    let source ← factText data "log_source"
    let time ← factText data "log_timestamp"
    let message ← factText data "log_message"
    .ok (linesText
      [name, "Type: Log Match", "", "A log entry matched your alert criteria.", "", query, "",
        "Matching Log:", "- Level: " ++ level, "- Source: " ++ source, "- Time: " ++ time,
        "- Message: " ++ message])

/-- The title of a short note. -/
def title (a : Alert) (type : AlertType) : String :=
  match type with
  | .velocity => "Velocity Alert: " ++ a.settings.name.display
  | .anyMatch => "Log Match: " ++ a.settings.name.display

/-- The message of a short note. -/
def note (a : Alert) (type : AlertType) (data : Json) : Except Failure String := do
  let query := "Query: " ++ a.settings.searchQuery.display
  match type with
  | .velocity =>
    let window ← windowText (← fact data "window_seconds") true
    let count ← factText data "count"
    let threshold ← factText data "threshold"
    .ok (String.intercalate "\n"
      [count ++ " matches in " ++ window, "Threshold: " ++ threshold, query])
  | .anyMatch =>
    let level ← factText data "log_level"
    let message ← factText data "log_message"
    let source ← factText data "log_source"
    .ok (String.intercalate "\n" [level ++ ": " ++ message, "Source: " ++ source, query])

end LogAlert.Message
