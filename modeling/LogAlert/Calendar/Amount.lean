import LogAlert.Calendar.Span
import LogAlert.Failure

/-!
# Amounts of time

Lengths of time given as numbers of units.  Whole numbers of units are exact.  A fraction of a
unit is multiplied out in double precision, and what remains below a microsecond is rounded at
the end, a tie going to the even microsecond.

## Main definitions

* `Amount.units` : the units by name.
* `Amount.total` : the length of several numbers of units.
-/

namespace LogAlert.Amount

/-- The units by name, smallest first. -/
def units : List (String × Span) :=
  [("microseconds", 1), ("milliseconds", 1000), ("seconds", Span.second),
    ("minutes", Span.minute), ("hours", Span.hour), ("days", Span.day), ("weeks", Span.week)]

/-- A sum of microseconds: the whole ones, and a remainder of double precision in units of
`2 ^ -1074`. -/
structure Sum where
  micros : Int
  rest : Int

/-- One in units of `2 ^ -1074`. -/
def one : Int := Position.one

/-- The value of a finite number in units of `2 ^ -1074`. -/
def scaled (x : Binary64) : Int :=
  (x.position?.map (·.units)).getD 0

/-- Adds a finite number of units, given in units of `2 ^ -1074`, of which each is `factor`
microseconds. -/
def Sum.addFraction (s : Sum) (factor : Span) (x : Int) : Sum :=
  let whole := x.tdiv one
  let product := scaled (.ofUnits ((x - whole * one) * factor))
  let more := product.tdiv one
  { micros := s.micros + whole * factor + more
    rest := scaled (.ofUnits (s.rest + (product - more * one))) }

/-- Adds a number of units, of which each is `factor` microseconds. -/
def Sum.add (s : Sum) (name : String) (factor : Span) (v : Json) : Except Failure Sum :=
  match v with
  | .bool b => .ok { s with micros := s.micros + (if b then factor else 0) }
  | .int n => .ok { s with micros := s.micros + n * factor }
  | .float x =>
    match x.position? with
    | none => .error (.value "cannot convert float NaN to integer")
    | some p =>
      if p.rank == 0 then .ok (s.addFraction factor p.units)
      else .error (.of .overflow "cannot convert float infinity to integer")
  | v => .error (.type ("unsupported type for timedelta " ++ name ++ " component: " ++ v.kindName))

/-- Adds the numbers of units given by name, smallest units first. -/
def addAll (amounts : Json.Fields) : List (String × Span) → Sum → Except Failure Sum
  | [], s => .ok s
  | (name, factor) :: rest, s =>
    match Json.field? amounts name with
    | none => addAll amounts rest s
    | some v => do addAll amounts rest (← s.add name factor v)

/-- The nearest whole number of microseconds. -/
def Sum.rounded (s : Sum) : Span :=
  let total := s.micros * one + s.rest
  Binary64.signed (total < 0) (roundRatio total.natAbs Position.one)

/-- The most days of a length of time. -/
def maxDays : Int := 999999999

/-- The length of the given numbers of units. -/
def total (amounts : Json.Fields) : Except Failure Span := do
  match amounts.keys.find? fun key => !units.any (·.1 == key) with
  | some key => .error (.type ("'" ++ key ++ "' is an invalid keyword argument for __new__()"))
  | none =>
    let amount := (← addAll amounts units ⟨0, 0⟩).rounded
    let days := amount.fdiv Span.day
    if days < -maxDays || maxDays < days then
      .error (.of .overflow ("days=" ++ toString days ++ "; must have magnitude <= 999999999"))
    else .ok amount

/-- The length of a number of seconds. -/
def seconds (v : Json) : Except Failure Span :=
  total [("seconds", v)]

end LogAlert.Amount
