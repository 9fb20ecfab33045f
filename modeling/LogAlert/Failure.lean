import LogAlert.Json.Reader

/-!
# Failures

What a call can end in instead of an answer.  A failure has a kind and arguments; the kind
decides who handles it, and both together give its wording in error messages and in the
outcomes recorded for notifications.

## Main definitions

* `Failure.Kind`, `Failure` : the failures.
* `Failure.text`, `Failure.inspect` : the message alone, and the message with the kind's name.
-/

namespace LogAlert

/-- What the client of a key-value server reports. -/
inductive ClientFault where
  /-- The server cannot be reached. -/
  | connection
  /-- The server does not answer in time. -/
  | timeout
  /-- A watched key was written by someone else. -/
  | race
  /-- The command does not fit the value under its key. -/
  | refused
  deriving DecidableEq, Repr, Inhabited

/-- The name of a client fault. -/
def ClientFault.name : ClientFault → String
  | .connection => "ConnectionError"
  | .timeout => "TimeoutError"
  | .race => "WatchError"
  | .refused => "ResponseError"

/-- Whether the network or the server is at fault. -/
def ClientFault.origin : ClientFault → String
  | .connection | .timeout => "network"
  | .race | .refused => "server"

/-- The kinds of failure. -/
inductive Failure.Kind where
  /-- A field of an alert or channel is refused. -/
  | config (field : String)
  /-- A store could not do what was asked. -/
  | store
  /-- A value has the right kind and the wrong content. -/
  | value
  /-- A number or a date leaves its range. -/
  | overflow
  /-- An operation is not defined for a value's kind. -/
  | type
  /-- A field is missing from a document. -/
  | key
  /-- A value lacks an attribute that its use needs. -/
  | attribute
  /-- A text is not a JSON document. -/
  | json
  /-- A sender has no way of delivery. -/
  | notImplemented
  /-- The client of the key-value server failed. -/
  | client (fault : ClientFault)
  /-- The operating system, the network or a mail server failed. -/
  | network (name : String)
  /-- Any other failure of a collaborator. -/
  | other (name : String)
  deriving DecidableEq, Repr, Inhabited

/-- The name under which a kind of failure is reported. -/
def Failure.Kind.name : Failure.Kind → String
  | .config _ => "AlertConfigError"
  | .store => "StoreError"
  | .value => "ValueError"
  | .overflow => "OverflowError"
  | .type => "TypeError"
  | .key => "KeyError"
  | .attribute => "AttributeError"
  | .json => "JSONDecodeError"
  | .notImplemented => "NotImplementedError"
  | .client fault => fault.name
  | .network name | .other name => name

/-- A failure: its kind and its arguments, of which a single one is the message. -/
structure Failure where
  kind : Failure.Kind
  args : List Json
  deriving Repr, Inhabited

namespace Failure

/-- A failure with a message. -/
def of (kind : Kind) (message : String) : Failure :=
  ⟨kind, [.str message]⟩

/-- A field is refused for the given reason. -/
def config (field problem : String) : Failure :=
  .of (.config field) (field ++ ": " ++ problem)

/-- A store could not do what was asked. -/
def store (message : String) : Failure :=
  .of .store message

/-- A value has the wrong content. -/
def value (message : String) : Failure :=
  .of .value message

/-- A value has the wrong kind. -/
def type (message : String) : Failure :=
  .of .type message

/-- A date leaves the years 1 to 9999. -/
def dateOverflow : Failure :=
  .of .overflow "date value out of range"

/-- A value lacks an attribute. -/
def lacks (v : Json) (name : String) : Failure :=
  .of .attribute ("'" ++ v.kindName ++ "' object has no attribute '" ++ name ++ "'")

/-- A text is not a document; one whose integers are too long has the wrong content instead. -/
def ofSyntax (e : Json.SyntaxError) : Failure :=
  match e.problem with
  | .tooManyDigits _ => .value e.message
  | _ => .of .json e.message

/-- Whether the key-value client reported the failure. -/
def isClient (f : Failure) : Bool :=
  match f.kind with
  | .client _ => true
  | _ => false

/-- Whether the failure is a lost race for a watched key. -/
def isRace (f : Failure) : Bool :=
  f.kind == .client .race

/-- Whether the operating system, the network or a mail server failed. -/
def isNetwork (f : Failure) : Bool :=
  match f.kind with
  | .network _ => true
  | _ => false

/-- Several arguments in parentheses; a single one is followed by a comma. -/
def tupleText (args : List Json) : String :=
  match args with
  | [v] => "(" ++ v.inspect ++ ",)"
  | _ => "(" ++ String.intercalate ", " (args.map Json.inspect) ++ ")"

/-- Names of failures that go by an error number. -/
def numberedNames : List (Int × String) :=
  [(1, "PermissionError"), (2, "FileNotFoundError"), (3, "ProcessLookupError"),
    (4, "InterruptedError"), (10, "ChildProcessError"), (11, "BlockingIOError"),
    (13, "PermissionError"), (17, "FileExistsError"), (20, "NotADirectoryError"),
    (21, "IsADirectoryError"), (32, "BrokenPipeError"), (103, "ConnectionAbortedError"),
    (104, "ConnectionResetError"), (108, "BrokenPipeError"), (110, "TimeoutError"),
    (111, "ConnectionRefusedError"), (114, "BlockingIOError"), (115, "BlockingIOError")]

/-- A failure of the network.  One of no special kind goes by its error number, if it has one,
and one of an address has a single argument. -/
def network (name : String) (args : List Json) : Failure :=
  match name, args with
  | "OSError", .int n :: _ :: _ =>
    ⟨.network (((numberedNames.find? (·.1 == n)).map (·.2)).getD name), args⟩
  | "URLError", reason :: _ => ⟨.network name, [reason]⟩
  | _, _ => ⟨.network name, args⟩

/-- Whether the first two arguments of a network failure are an error number and its meaning. -/
def isNumbered (name : String) : Bool :=
  ["OSError", "SMTPException", "SMTPServerDisconnected"].contains name ||
    numberedNames.any (·.2 == name)

/-- The message of a failure. -/
def text (f : Failure) : String :=
  match f.kind, f.args with
  | _, [] => ""
  | .key, [v] => v.inspect
  | .network "URLError", v :: _ => "<urlopen error " ++ v.display ++ ">"
  | _, [v] => v.display
  | .network name, a :: b :: rest =>
    if isNumbered name then "[Errno " ++ a.display ++ "] " ++ b.display
    else tupleText (a :: b :: rest)
  | _, args => tupleText args

/-- The failure as it is recorded: the kind's name with the arguments, or for a client fault
its origin and name. -/
def inspect (f : Failure) : String :=
  match f.kind with
  | .client fault => fault.origin ++ ":" ++ fault.name
  | kind => kind.name ++ "(" ++ String.intercalate ", " (f.args.map Json.inspect) ++ ")"

end Failure

end LogAlert
