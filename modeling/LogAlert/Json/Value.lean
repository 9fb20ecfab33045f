import LogAlert.Number.Shortest
import LogAlert.Table
import LogAlert.Text.Quoted

/-!
# JSON values

The values that log entries, alert settings and stored documents are made of.  Integers are
unbounded and distinct from floating point numbers; the fields of an object keep their order.

## Main definitions

* `Json` : the values.
* `Json.field?`, `Json.setField` : reading and writing a field of an object.
* `Json.isTruthy`, `Json.same` : truth and equality of values, numbers being equal by value.
* `Json.inspect`, `Json.display` : the forms in which values appear inside messages.
-/

namespace LogAlert

/-- A JSON value. -/
inductive Json where
  | null
  | bool (b : Bool)
  | int (n : Int)
  | float (x : Binary64)
  | str (s : String)
  | arr (items : List Json)
  | obj (fields : List (String × Json))
  deriving Repr, Inhabited

namespace Json

mutual

/-- Whether two values are identical, kinds of numbers and the order of fields included. -/
def beq : Json → Json → Bool
  | .null, .null => true
  | .bool a, .bool b => a == b
  | .int a, .int b => a == b
  | .float a, .float b => a == b
  | .str a, .str b => a == b
  | .arr as, .arr bs => beqItems as bs
  | .obj as, .obj bs => beqFields as bs
  | _, _ => false

/-- Whether two arrays have identical items. -/
def beqItems : List Json → List Json → Bool
  | [], [] => true
  | a :: as, b :: bs => beq a b && beqItems as bs
  | _, _ => false

/-- Whether two objects have identical fields in the same order. -/
def beqFields : List (String × Json) → List (String × Json) → Bool
  | [], [] => true
  | (k, a) :: as, (l, b) :: bs => k == l && beq a b && beqFields as bs
  | _, _ => false

end

instance : BEq Json := ⟨beq⟩

/-- The fields of an object, in order. -/
abbrev Fields := Table String Json

/-- The value of a field. -/
def field? (fields : Fields) (key : String) : Option Json :=
  Table.get? fields key

/-- Writes a field: in place if the object has it, and otherwise at the end. -/
def setField (key : String) (value : Json) (fields : Fields) : Fields :=
  Table.put key value fields

/-- A text, or null. -/
def ofText? : Option String → Json
  | none => .null
  | some s => .str s

/-- An integer, or null. -/
def ofInt? : Option Int → Json
  | none => .null
  | some n => .int n

/-- Where a number lies on the line of all numbers; a truth value counts as zero or one. -/
def position? : Json → Option Position
  | .bool b => some (.ofInt (if b then 1 else 0))
  | .int n => some (.ofInt n)
  | .float x => x.position?
  | _ => none

/-- Whether the value is a number, a truth value included. -/
def isNumber : Json → Bool
  | .bool _ | .int _ | .float _ => true
  | _ => false

/-- Whether the value is null. -/
def isNull : Json → Bool
  | .null => true
  | _ => false

/-- Whether the value counts as given: null, false, zero and everything empty do not. -/
def isTruthy : Json → Bool
  | .null => false
  | .bool b => b
  | .int n => n != 0
  | .float x => !x.isZero
  | .str s => s != ""
  | .arr items => !items.isEmpty
  | .obj fields => !fields.isEmpty

mutual

/-- Equality of values: numbers by value whatever their kind, objects without regard to the
order of their fields. -/
def same : Json → Json → Bool
  | .null, b => b.isNull
  | .str s, b => match b with
    | .str t => s == t
    | _ => false
  | .arr xs, b => match b with
    | .arr ys => sameItems xs ys
    | _ => false
  | .obj fs, b => match b with
    | .obj gs => fs.length == gs.length && sameFields fs gs
    | _ => false
  | .bool a, b => match (Json.bool a).position?, b.position? with
    | some p, some q => p == q
    | _, _ => false
  | .int a, b => match (Json.int a).position?, b.position? with
    | some p, some q => p == q
    | _, _ => false
  | .float a, b => match (Json.float a).position?, b.position? with
    | some p, some q => p == q
    | _, _ => false

/-- Equality of arrays, item by item. -/
def sameItems : List Json → List Json → Bool
  | [], ys => ys.isEmpty
  | x :: xs, ys => match ys with
    | y :: ys => same x y && sameItems xs ys
    | [] => false

/-- Whether every field of the first object has an equal one in the second. -/
def sameFields : Fields → Fields → Bool
  | [], _ => true
  | (key, x) :: fs, gs => match field? gs key with
    | some y => same x y && sameFields fs gs
    | none => false

end

/-- The name of the kind of a value in error messages. -/
def kindName : Json → String
  | .null => "NoneType"
  | .bool _ => "bool"
  | .int _ => "int"
  | .float _ => "float"
  | .str _ => "str"
  | .arr _ => "list"
  | .obj _ => "dict"

/-- The decimal digits of an integer with its sign. -/
def intText (n : Int) : List Char :=
  (if n < 0 then ['-'] else []) ++ Nat.toDigits 10 n.natAbs

mutual

/-- The form of a value inside a message, texts quoted. -/
def inspectChars : Json → List Char
  | .null => "None".toList
  | .bool b => if b then "True".toList else "False".toList
  | .int n => intText n
  | .float x => x.toText
  | .str s => Text.quoted s.toList
  | .arr items => '[' :: (inspectItems items ++ [']'])
  | .obj fields => '\x7b' :: (inspectFields fields ++ ['\x7d'])

/-- The items of an array, separated by commas. -/
def inspectItems : List Json → List Char
  | [] => []
  | x :: xs => inspectChars x ++ (if xs.isEmpty then [] else ',' :: ' ' :: inspectItems xs)

/-- The fields of an object, separated by commas. -/
def inspectFields : Fields → List Char
  | [] => []
  | (key, x) :: fs =>
    Text.quoted key.toList ++ ':' :: ' ' :: inspectChars x ++
      (if fs.isEmpty then [] else ',' :: ' ' :: inspectFields fs)

end

/-- The form of a value inside a message, texts quoted. -/
def inspect (v : Json) : String :=
  String.ofList v.inspectChars

/-- The form of a value inside a message, a text as it is. -/
def display : Json → String
  | .str s => s
  | v => v.inspect

end Json

end LogAlert
