import LogAlert.Alert.Book
import LogAlert.Alert.Service
import LogAlert.Calendar.Amount
import LogAlert.Engine.Scheduler
import LogAlert.KeyValue.AlertStore
import LogAlert.Log.Follower
import LogAlert.Simulation.Outbox
import LogAlert.Simulation.Server

/-!
# Simulated surroundings

All that the administration and evaluation of alerts need, as one value: a clock that moves
when it is told to, the stores, the ways of notification, and the failures that are planned.
What is done in the surroundings is done in order, and a failure leaves everything as it was
when it came up.

## Main definitions

* `Surroundings` : the surroundings.
* `Act` : something done in them.
* `Surroundings.engine`, `Surroundings.service`, `Surroundings.tick`, `Surroundings.runOnce` :
  the scripts of the library, run in them.
-/

namespace LogAlert.Simulation

/-- Where alerts are stored: in a book, or in the key-value server. -/
inductive AlertKeeper where
  | book (book : AlertBook)
  | server (store : KeyValue.AlertStore)
  deriving Repr, Inhabited

/-- A callback of the scheduler: it notes its name, and then fails if a failure is given. -/
structure Callback where
  name : String
  failure : Option Failure
  deriving Repr, Inhabited

/-- The surroundings.  Logs are stored by a follower, which reads the file if it follows it. -/
structure Surroundings where
  clock : Moment
  alerts : AlertKeeper
  logs : Follower
  followsFile : Bool
  file : Option (List UInt8)
  server : Server
  means : Means
  sent : List Sent
  previewChars : Int
  scheduler : Scheduler
  callbacks : List Callback
  seen : List (String × Option Nat)
  plans : CallPlans
  deriving Inhabited

/-- Something done in the surroundings, which may fail. -/
abbrev Act (α : Type) := ExceptT Failure (StateM Surroundings) α

/-- A script whose requests are answered in the surroundings. -/
def perform {I : Interface} {α : Type} (answer : (r : I.Request) → Act (I.Answer r))
    (script : Script I α) : Act α :=
  ExceptT.mk fun s => script.run (fun r s => ((answer r).run).run s) s

namespace Surroundings

/-- The result of a computation that needs no surroundings. -/
def decided {α : Type} (result : Except Failure α) : Act α :=
  ExceptT.mk (pure result)

/-- A call to one of the surroundings, which fails if that is planned. -/
def strike (target : Target) (call : String) : Act Unit := do
  let s ← get
  let (result, plans) := s.plans.strike (target, call)
  set { s with plans }
  decided result

/-! ### Logs -/

/-- Reads what was added to the log file, and counts the new records. -/
def refresh : Act Nat := do
  strike .logs "refresh"
  let s ← get
  if !s.followsFile then throw (.of .attribute "no file is followed")
  let (logs, result) := s.logs.refresh s.file
  set { s with logs }
  decided result

/-- The stored logs, after what was added to the file is read. -/
def currentLogs : Act LogStore := do
  if (← get).followsFile then
    let _ ← refresh
  pure (← get).logs.store

/-- The answer to a request to the log store. -/
def askLogs (r : LogRequest) : Act r.Answer := do
  strike .logs r.name
  decided ((← currentLogs).answer r)

/-- The records that answer all tokens, up to a number of them. -/
def search (tokens : List Token) (limit : Option Int) : Act (List Record) := do
  strike .logs "search"
  decided ((← currentLogs).search tokens limit)

/-- The number of stored records. -/
def logCount : Act Nat := do
  pure (← get).logs.store.records.length

/-- Stores a record. -/
def addLog (r : Record) : Act Record := do
  strike .logs "add"
  let s ← get
  let store ← decided (s.logs.store.add r)
  set { s with logs := { s.logs with store } }
  pure r

/-- Stores a record under the next id. -/
def appendLog (source message level : String) (timestamp : Option Moment)
    (metadata : Json.Fields) : Act Record := do
  strike .logs "append"
  let s ← get
  let (store, r) := s.logs.store.append source message level (timestamp.getD s.clock) metadata
  set { s with logs := { s.logs with store } }
  pure r

/-- Changes the log file. -/
def changeFile (f : Option (List UInt8) → Option (List UInt8)) : Act Unit :=
  modify fun s => { s with file := f s.file }

/-! ### Alerts -/

/-- The answer to a request to the key-value server. -/
def askServer (r : KeyValue.ClientRequest) : Act r.Answer := do
  match r with
  | .begins operation => strike .alerts operation
  | _ => pure ()
  ExceptT.mk fun s =>
    let (answer, server) := s.server.answer r
    (answer, { s with server })

/-- A script for the key-value server. -/
def onServer {α : Type} (script : Script KeyValue.Client α) : Act α :=
  perform (I := KeyValue.Client) askServer script

/-- The answer to a request to a book. -/
def askBook (b : AlertBook) (r : AlertRequest) : Act r.Answer := do
  strike .alerts r.name
  ExceptT.mk fun s =>
    let (answer, b) := b.answer r
    (answer, { s with alerts := .book b })

/-- The answer to a request to the alert store. -/
def askAlerts (r : AlertRequest) : Act r.Answer := do
  match (← get).alerts with
  | .book b => askBook b r
  | .server store => onServer (store.serve r)

/-- Whether the server of the alert store answers. -/
def ping : Act Bool := do
  match (← get).alerts with
  | .book _ => throw (.of .attribute "a book has no server")
  | .server _ => onServer KeyValue.AlertStore.ping

/-! ### Scripts -/

/-- Notifies the channels of an alert. -/
def notify (a : Alert) (type : AlertType) (data : Json) : Act Json := do
  let s ← get
  let (result, sent) := s.means.sendAlert a (.str type.name) data s.sent
  set { s with sent }
  let notifications ← decided result
  pure (.arr (notifications.map Notification.toJson))

/-- The answer to a request of the engine. -/
def askEngine (r : EngineRequest) : Act r.Answer :=
  match r with
  | .alerts r => askAlerts r
  | .logs r => askLogs r
  | .now => do pure (← get).clock
  | .notify a type data => notify a type data
  | .evaluating _ => strike .evaluator "evaluate"

/-- A script of the administration or the evaluation of alerts. -/
def engine {α : Type} (script : Script Engine α) : Act α :=
  perform (I := Engine) askEngine script

/-- Evaluates all enabled alerts. -/
def tick : Act TickReport := do
  strike .evaluator "tick"
  engine (Evaluator.tick (← get).previewChars)

/-- Evaluates an alert. -/
def evaluate (a : Alert) : Act Outcome := do
  engine (Evaluator.evaluate (← get).previewChars a)

/-- Tells a callback of a tick. -/
def call (callback : Callback) (report : Option TickReport) : Act Unit := do
  modify fun s =>
    { s with seen := s.seen ++ [(callback.name, report.map fun r => r.outcomes.length)] }
  match callback.failure with
  | some e => throw e
  | none => pure ()

/-- The answer to a request of the scheduler. -/
def askScheduling (r : SchedulingRequest) : Act r.Answer :=
  match r with
  | .tick => tick
  | .call n _ report => do
    match (← get).callbacks[n]? with
    | some callback => call callback report
    | none => pure ()

/-- Runs one tick with the callbacks. -/
def runOnce : Act (Option TickReport) := do
  let s ← get
  let (scheduler, report) ←
    perform (I := Scheduling) askScheduling (s.scheduler.runOnce s.callbacks.length)
  modify fun s => { s with scheduler }
  pure report

/-! ### The clock and the plans -/

/-- Moves the clock by the given numbers of units. -/
def advance (amounts : Json.Fields) : Act Moment := do
  let amount ← decided (Amount.total amounts)
  let s ← get
  match s.clock.shift? amount with
  | some clock => do
    set { s with clock }
    pure clock
  | none => throw .dateOverflow

/-- Plans failures of a call, in place of those planned for it before. -/
def planCall (target : Target) (call : String) (plan : Plan) : Act Unit :=
  modify fun s => { s with plans := s.plans.put (target, call) plan }

/-- Plans failures of a command, after all those planned before. -/
def planCommand (plan : CommandPlan) : Act Unit :=
  modify fun s => { s with server := { s.server with plans := s.server.plans ++ [plan] } }

/-- Writes to the key-value server as another client. -/
def writeRaw (writes : List KeyValue.Write) : Act Unit := do
  let s ← get
  let (_, data) ← decided (s.server.data.writeAll writes)
  set { s with server := { s.server with data } }

/-- Registers a callback of the scheduler. -/
def onTick (callback : Callback) : Act Unit :=
  modify fun s => { s with callbacks := s.callbacks ++ [callback] }

end Surroundings

end LogAlert.Simulation
