/-!
# Arguments of a command

Options among the arguments of a command.  A long option is written `--name`, its value is the
next argument or follows an equals sign; short options are single letters after one hyphen,
several of them at once, and the value of the last one is what follows it or else the next
argument.  Two hyphens alone end the options.

## Main definitions

* `OptionForm` : how an option is written.
* `Arguments.read?` : the options and the other arguments.
-/

namespace LogAlert.Console

/-- How an option is written. -/
structure OptionForm where
  long : String
  short : Option Char
  takesValue : Bool
  deriving Repr, Inhabited

/-- The arguments of a command: the options by their long names, with their values, in the
order in which they are given, and the other arguments. -/
structure Arguments where
  options : List (String × String)
  rest : List String
  deriving Repr, Inhabited

/-- What one argument says: options with their values, and perhaps an option whose value is the
next argument. -/
structure Clause where
  options : List (String × String)
  awaiting : Option String
  deriving Repr, Inhabited

namespace Arguments

/-- The value of an option that was given last. -/
def value? (a : Arguments) (long : String) : Option String :=
  (a.options.reverse.find? (·.1 == long)).map (·.2)

/-- Whether an option is given. -/
def has (a : Arguments) (long : String) : Bool :=
  a.options.any (·.1 == long)

/-- What the letters after a single hyphen say. -/
def readLetters? (forms : List OptionForm) : List Char → Option Clause
  | [] => some ⟨[], none⟩
  | c :: cs =>
    match forms.find? (·.short == some c) with
    | none => none
    | some form =>
      if form.takesValue then
        if cs.isEmpty then some ⟨[], some form.long⟩
        else some ⟨[(form.long, String.ofList cs)], none⟩
      else
        (readLetters? forms cs).map fun clause =>
          { clause with options := (form.long, "") :: clause.options }

/-- What an argument that begins with a hyphen says. -/
def readClause? (forms : List OptionForm) (argument : List Char) : Option Clause :=
  let name := argument.takeWhile (· != '=')
  let value := (argument.dropWhile (· != '=')).drop 1
  let hasValue := name.length < argument.length
  match forms.find? (·.long.toList == name) with
  | some form =>
    if form.takesValue then
      if hasValue then some ⟨[(form.long, String.ofList value)], none⟩
      else some ⟨[], some form.long⟩
    else if hasValue then none
    else some ⟨[(form.long, "")], none⟩
  | none =>
    match argument with
    | '-' :: '-' :: _ => none
    | '-' :: letters => readLetters? forms letters
    | _ => none

/-- Whether an argument is written like options. -/
def isClause (argument : List Char) : Bool :=
  argument.head? = some '-' && 1 < argument.length

/-- The options among some arguments, and the other arguments.  Unless options may stand
anywhere, they end before the first other argument. -/
def read? (forms : List OptionForm) (anywhere : Bool) : List String → Option Arguments
  | [] => some ⟨[], []⟩
  | argument :: rest =>
    if argument == "--" then some ⟨[], rest⟩
    else if isClause argument.toList then
      match readClause? forms argument.toList with
      | none => none
      | some ⟨options, none⟩ =>
        (read? forms anywhere rest).map fun a => { a with options := options ++ a.options }
      | some ⟨options, some long⟩ =>
        match rest with
        | [] => none
        | value :: rest =>
          (read? forms anywhere rest).map fun a =>
            { a with options := options ++ (long, value) :: a.options }
    else if anywhere then
      (read? forms anywhere rest).map fun a => { a with rest := argument :: a.rest }
    else some ⟨[], argument :: rest⟩

end Arguments

end LogAlert.Console
