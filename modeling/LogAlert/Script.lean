import LogAlert.Failure

/-!
# Scripts

A script is a computation that asks its surroundings for what it needs, one request after the
other.  Each request is answered or fails, and the script goes on either way.  The stores, the
clock and the network are surroundings: a script says what is asked of them and what follows
from each answer, for any answers.

## Main definitions

* `Interface` : a set of requests with the type of the answer to each.
* `Script` : the scripts, a monad with failures.
* `Script.attempt` : a script whose failure is an answer.
* `Script.through` : a script on top of another interface.
* `Script.run` : a script in surroundings that keep a state.
-/

namespace LogAlert

/-- The requests to some surroundings, and what they are answered with. -/
structure Interface where
  Request : Type
  Answer : Request → Type

/-- A computation with requests. -/
inductive Script (I : Interface) (α : Type) where
  /-- The end of a computation. -/
  | done (result : Except Failure α)
  /-- A request, and what to do with its answer. -/
  | ask (request : I.Request) (next : Except Failure (I.Answer request) → Script I α)

namespace Script

variable {I : Interface} {α β : Type}

/-- One computation after the other, unless the first fails. -/
def bind (s : Script I α) (f : α → Script I β) : Script I β :=
  match s with
  | .done (.ok a) => f a
  | .done (.error e) => .done (.error e)
  | .ask r next => .ask r fun answer => (next answer).bind f

instance : Monad (Script I) where
  pure a := .done (.ok a)
  bind := bind

/-- The computation that fails. -/
def fail (e : Failure) : Script I α :=
  .done (.error e)

/-- A result without requests. -/
def ofExcept (result : Except Failure α) : Script I α :=
  .done result

/-- A single request. -/
def request (r : I.Request) : Script I (I.Answer r) :=
  .ask r .done

/-- The computation that answers with the result of another one, be it a failure. -/
def attempt : Script I α → Script I (Except Failure α)
  | .done result => .done (.ok result)
  | .ask r next => .ask r fun answer => (next answer).attempt

/-- The result of each item in turn. -/
def mapList (f : α → Script I β) : List α → Script I (List β)
  | [] => pure []
  | a :: as => do
    let b ← f a
    let bs ← mapList f as
    pure (b :: bs)

/-- A script whose requests are answered by scripts with requests of another kind. -/
def through {J : Interface} (answer : (r : I.Request) → Script J (I.Answer r)) :
    Script I α → Script J α
  | .done result => .done result
  | .ask r next => (answer r).attempt.bind fun a => (next a).through answer

/-- A script in surroundings that answer requests and keep a state. -/
def run {σ : Type} (answer : (r : I.Request) → σ → Except Failure (I.Answer r) × σ) :
    Script I α → σ → Except Failure α × σ
  | .done result, s => (result, s)
  | .ask r next, s =>
    match answer r s with
    | (a, s) => (next a).run answer s

end Script

end LogAlert
