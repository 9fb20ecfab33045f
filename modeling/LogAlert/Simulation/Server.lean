import LogAlert.KeyValue.Client
import LogAlert.Simulation.Plan

/-!
# A key-value server

A key-value server with a single client.  Nobody else writes to its data, except that a planned
failure of a command may bring writes with it, as if another client had been faster.

## Main definitions

* `CommandPlan` : a planned failure of a command with its writes.
* `Server`, `Server.answer` : the server, and its answers.
-/

namespace LogAlert.Simulation

open KeyValue

/-- A planned failure of a command, and what is written when it strikes. -/
structure CommandPlan where
  command : String
  plan : Plan
  writes : List Write
  deriving Repr, Inhabited

/-- A server: its data, and the planned failures in the order in which they are tried. -/
structure Server where
  data : Database
  plans : List CommandPlan
  deriving Repr, Inhabited

namespace Server

/-- A server without data. -/
def empty : Server :=
  ⟨[], []⟩

/-- Data with writes done to it, unless one of them does not fit. -/
def written (data : Database) (writes : List Write) : Database :=
  match data.writeAll writes with
  | .ok (_, data) => data
  | .error _ => data

/-- The plans after a command, and the one that strikes it.  A plan that lets the command go
through passes it on to the next. -/
def strikeFirst (command : String) : List CommandPlan → List CommandPlan × Option CommandPlan
  | [] => ([], none)
  | p :: ps =>
    if p.command == command then
      let (plan, fails) := p.plan.strike
      if fails then ({ p with plan } :: ps, some p)
      else
        let (ps, hit) := strikeFirst command ps
        ({ p with plan } :: ps, hit)
    else
      let (ps, hit) := strikeFirst command ps
      (p :: ps, hit)

/-- What becomes of a command. -/
def strike (s : Server) (command : String) : Except Failure Unit × Server :=
  let (plans, hit) := strikeFirst command s.plans
  match hit with
  | some p => (.error p.plan.failure, ⟨written s.data p.writes, plans⟩)
  | none => (.ok (), { s with plans })

/-- The name of the command that a request starts with. -/
def commandOf : ClientRequest → Option String
  | .read command => some command.name
  | .write command => some command.name
  | .watch _ => some "watch"
  | .commit _ | .transact _ => some "execute"
  | .begins _ => none

/-- The answers to commands that are applied together, and the server after them. -/
def apply (s : Server) (commands : List Write) : Except Failure (List Int) × Server :=
  match s.data.writeAll commands with
  | .ok (counts, data) => (.ok counts, { s with data })
  | .error e => (.error e, s)

/-- The answer to a request for which no failure is planned. -/
def respond (s : Server) (r : ClientRequest) : Except Failure r.Answer × Server :=
  match r with
  | .read command => (s.data.read command, s)
  | .write command =>
    match s.data.write command with
    | .ok (n, data) => (.ok n, { s with data })
    | .error e => (.error e, s)
  | .watch _ => (.ok (), s)
  | .commit commands => s.apply commands
  | .transact commands => s.apply commands
  | .begins _ => (.ok (), s)

/-- The answer to a request. -/
def answer (s : Server) (r : ClientRequest) : Except Failure r.Answer × Server :=
  match commandOf r with
  | none => s.respond r
  | some command =>
    match s.strike command with
    | (.error e, s) => (.error e, s)
    | (.ok (), s) => s.respond r

end Server

end LogAlert.Simulation
