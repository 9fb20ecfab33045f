import LogAlert.Engine.Scheduler

/-!
# The terminal

What the commands of the program ask of their surroundings: the time, files, places to print,
and the evaluation of the stored alerts.

## Main definitions

* `Grid`, `Item` : what is printed for people.
* `Terminal` : the interface.
-/

namespace LogAlert.Console

/-- A table: its title, the heads of its columns, and its rows, each perhaps with a style. -/
structure Grid where
  title : String
  columns : List String
  rows : List (List String × Option String)
  deriving Repr, Inhabited

/-- What is printed for people: a text with marks for its style, or a table. -/
inductive Item where
  | text (s : String)
  | grid (g : Grid)
  deriving Repr, Inhabited

/-- An item without style, line by line. -/
def Item.lines : Item → List String
  | .text s => [s]
  | .grid g => g.title :: (g.columns :: g.rows.map (·.1)).map (String.intercalate " | ")

/-- A request of a command. -/
inductive TerminalRequest where
  | time
  /-- The content of a file, if it exists. -/
  | readFile (path : String)
  /-- A line for other programs. -/
  | print (line : String)
  /-- Something for people. -/
  | display (item : Item)
  /-- Something for people that is not what they asked for. -/
  | complain (item : Item)
  /-- Choose the alert store with an address. -/
  | connect (url : String)
  /-- Ask whether the alert store answers. -/
  | ping
  /-- Evaluate the stored alerts against a log file. -/
  | tick (path : String)
  deriving Repr, Inhabited

/-- What a request is answered with. -/
@[reducible] def TerminalRequest.Answer : TerminalRequest → Type
  | time => Moment
  | readFile _ => Option (List UInt8)
  | print _ | display _ | complain _ | connect _ => Unit
  | ping => Bool
  | tick _ => TickReport

/-- The requests of the commands. -/
abbrev Terminal : Interface :=
  ⟨TerminalRequest, TerminalRequest.Answer⟩

namespace Terminal

/-- A request to the terminal. -/
def ask (r : TerminalRequest) : Script Terminal r.Answer :=
  .request (I := Terminal) r

/-- Prints a line for other programs. -/
def print (line : String) : Script Terminal Unit :=
  ask (.print line)

/-- Prints a text for people. -/
def say (text : String) : Script Terminal Unit :=
  ask (.display (.text text))

/-- Prints a table for people. -/
def tabulate (g : Grid) : Script Terminal Unit :=
  ask (.display (.grid g))

/-- Prints a text for people that is not what they asked for. -/
def complain (text : String) : Script Terminal Unit :=
  ask (.complain (.text text))

end Terminal

end LogAlert.Console
