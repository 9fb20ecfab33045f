import LogAlert.Console.Arguments
import LogAlert.Number.Reader

/-!
# Commands

What users ask of the program on the command line.

## Main definitions

* `Command` : the commands.
* `Command.read?` : the command with a name and arguments.
* `Invocation.read` : all arguments of the program.
-/

namespace LogAlert.Console

/-- A command: show the tokens of a query, search a log file, or evaluate the stored alerts
against a log file. -/
inductive Command where
  | tokens (query : String) (asJson : Bool)
  | search (path query : String) (limit : Int) (asJson : Bool)
  | evaluate (path : String) (storeUrl : Option String) (once : Bool) (interval : Option Binary64)
  deriving Repr, Inhabited

/-- What the arguments of a command ask for: help, or the command itself. -/
inductive Wish where
  | help
  | command (command : Command)
  deriving Repr, Inhabited

/-- The option that asks for help. -/
def helpForm : OptionForm := ⟨"--help", none, false⟩

namespace Command

/-- An option without a value. -/
def flag (long : String) : OptionForm := ⟨long, none, false⟩

/-- An option with a value and a letter. -/
def lettered (long : String) (short : Char) : OptionForm := ⟨long, some short, true⟩

/-- An option with a value. -/
def valued (long : String) : OptionForm := ⟨long, none, true⟩

/-- An option's value that is absent or can be read. -/
def optional {α : Type} (value : Option String) (read : String → Option α) :
    Option (Option α) :=
  match value with
  | none => some none
  | some s => (read s).map some

/-- The arguments of a command, unless they ask for help. -/
def wish (forms : List OptionForm) (arguments : List String)
    (build : Arguments → Option Command) : Option Wish :=
  match Arguments.read? (helpForm :: forms) true arguments with
  | none => none
  | some a => if a.has "--help" then some .help else (build a).map .command

/-- The command to show the tokens of a query. -/
def buildTokens (a : Arguments) : Option Command :=
  match a.rest with
  | [query] => some (.tokens query (a.has "--json"))
  | _ => none

/-- Whether the word for a form of output asks for documents instead of a table. -/
def readOutput? (s : String) : Option Bool :=
  match String.ofList (s.toList.map Char.toLower) with
  | "table" => some false
  | "json" => some true
  | _ => none

/-- The command to search a log file. -/
def buildSearch (a : Arguments) : Option Command := do
  let limit ← optional (a.value? "--limit") fun s => Number.readShortInt? s.toList
  let asJson ← optional (a.value? "--output") readOutput?
  match a.rest with
  | [path, query] => some (.search path query (limit.getD 0) (asJson.getD false))
  | _ => none

/-- The command to evaluate alerts. -/
def buildEvaluate (a : Arguments) : Option Command := do
  let interval ← optional (a.value? "--interval") fun s => Number.readNumber? s.toList
  match a.rest with
  | [path] => some (.evaluate path (a.value? "--redis-url") (a.has "--once") interval)
  | _ => none

/-- The names of the commands. -/
def names : List String :=
  ["parse", "search", "run"]

/-- What the arguments of the command with the given name ask for. -/
def read? (name : String) (arguments : List String) : Option Wish :=
  match name with
  | "parse" => wish [flag "--json"] arguments buildTokens
  | "search" =>
    wish [lettered "--limit" 'n', lettered "--output" 'o'] arguments buildSearch
  | "run" => wish [valued "--redis-url", flag "--once", valued "--interval"] arguments buildEvaluate
  | _ => none

end Command

/-- What the arguments of the program ask for: its version, help, or a command, the latter
perhaps with a level of logging.  A command whose own arguments cannot be read is absent. -/
inductive Invocation where
  | version
  | help
  | command (logLevel : Option String) (wish : Option Wish)
  deriving Repr, Inhabited

namespace Invocation

/-- The options in front of a command. -/
def forms : List OptionForm :=
  [helpForm, .mk "--version" none false, .mk "--log-level" none true]

/-- What the arguments of the program ask for.  Of help and version the first one counts. -/
def read? (arguments : List String) : Option Invocation := do
  let a ← Arguments.read? forms false arguments
  match (a.options.map (·.1)).find? fun long => long == "--help" || long == "--version" with
  | some long => some (if long == "--help" then .help else .version)
  | none =>
    match a.rest with
    | [] => none
    | name :: rest =>
      if Command.names.contains name then
        some (.command (a.value? "--log-level") (Command.read? name rest))
      else none

end Invocation

end LogAlert.Console
