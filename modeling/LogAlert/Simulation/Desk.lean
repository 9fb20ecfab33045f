import LogAlert.Console.Program
import LogAlert.Simulation.Surroundings

/-!
# A simulated terminal

The program in simulated surroundings: files by path, a clock that stands still, and the alert
store in the simulated key-value server.  What is printed is kept.

## Main definitions

* `Desk` : the terminal.
* `Desk.run` : the program at it.
-/

namespace LogAlert.Simulation

open Console

/-- A terminal: the surroundings of the evaluation, the time, the files, and what was printed
so far.  The addresses are those of the alert stores that were chosen. -/
structure Desk where
  surroundings : Surroundings
  time : Moment
  files : Table String (List UInt8)
  printed : List String
  displayed : List Item
  complaints : List Item
  addresses : List String
  deriving Inhabited

namespace Desk

/-- The desk after something is done in its surroundings. -/
def within {α : Type} (act : Act α) (d : Desk) : Except Failure α × Desk :=
  let (result, surroundings) := (act.run).run d.surroundings
  (result, { d with surroundings })

/-- Evaluates the stored alerts against a log file.  The engine's clock shows whole seconds. -/
def tick (d : Desk) (path : String) : Act TickReport := do
  modify fun s =>
    { s with clock := d.time.wholeSecond, followsFile := true, file := d.files.get? path }
  Surroundings.tick

/-- The answer to a request of a command. -/
def answer (r : TerminalRequest) (d : Desk) : Except Failure r.Answer × Desk :=
  match r with
  | .time => (.ok d.time, d)
  | .readFile path => (.ok (d.files.get? path), d)
  | .print line => (.ok (), { d with printed := d.printed ++ [line] })
  | .display item => (.ok (), { d with displayed := d.displayed ++ [item] })
  | .complain item => (.ok (), { d with complaints := d.complaints ++ [item] })
  | .connect url => (.ok (), { d with addresses := d.addresses ++ [url] })
  | .ping => d.within Surroundings.ping
  | .tick path => d.within (d.tick path)

/-- The program with the given arguments. -/
def run (settings : Settings) (arguments : List String) (d : Desk) :
    Except Failure Ending × Desk :=
  (Program.run settings arguments).run answer d

end Desk

end LogAlert.Simulation
