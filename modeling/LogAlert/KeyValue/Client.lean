import LogAlert.KeyValue.Database
import LogAlert.Script

/-!
# Clients of a key-value server

What a client asks of the server.  A transaction applies its commands together or not at all;
one that follows a watch applies them only if no one else has written to a watched key since.

## Main definitions

* `ClientRequest`, `Client` : the interface.
-/

namespace LogAlert.KeyValue

/-- A request to a key-value server. -/
inductive ClientRequest where
  | read (command : Read)
  | write (command : Write)
  /-- Watch keys until the next commit. -/
  | watch (keys : List String)
  /-- A transaction under the last watch. -/
  | commit (commands : List Write)
  /-- A transaction without a watch. -/
  | transact (commands : List Write)
  /-- Tells that an operation of the alert store begins. -/
  | begins (operation : String)
  deriving Repr, Inhabited

/-- What a request is answered with. -/
@[reducible] def ClientRequest.Answer : ClientRequest → Type
  | read command => command.Answer
  | write _ => Int
  | watch _ | begins _ => Unit
  | commit _ | transact _ => List Int

/-- The requests to a key-value server. -/
abbrev Client : Interface :=
  ⟨ClientRequest, ClientRequest.Answer⟩

namespace Client

/-- A reading command. -/
def read (r : Read) : Script Client r.Answer :=
  .request (I := Client) (.read r)

/-- A writing command. -/
def write (w : Write) : Script Client Int :=
  .request (I := Client) (.write w)

/-- Watches keys. -/
def watch (keys : List String) : Script Client Unit :=
  .request (I := Client) (.watch keys)

/-- A transaction under the last watch. -/
def commit (ws : List Write) : Script Client (List Int) :=
  .request (I := Client) (.commit ws)

/-- A transaction without a watch. -/
def transact (ws : List Write) : Script Client (List Int) :=
  .request (I := Client) (.transact ws)

/-- The beginning of an operation. -/
def begins (operation : String) : Script Client Unit :=
  .request (I := Client) (.begins operation)

end Client

end LogAlert.KeyValue
