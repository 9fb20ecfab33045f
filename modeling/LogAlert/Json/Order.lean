import LogAlert.Failure

/-!
# Comparing values with numbers

Settings such as thresholds may hold any value; comparing one with a number is defined for
numbers only.

## Main definitions

* `Json.isAbove`, `Json.isAtMost` : how a value compares with a number.
-/

namespace LogAlert.Json

/-- The failure of comparing the kinds named. -/
def uncomparable (relation left right : String) : Failure :=
  .type ("'" ++ relation ++ "' not supported between instances of '" ++ left ++ "' and '" ++
    right ++ "'")

/-- Whether the value is a number greater than the one at `p`, which is of kind `kind`.  No
number is greater or less than one that is not a number. -/
def isAbove (v : Json) (kind : String) (p : Position) : Except Failure Bool :=
  if v.isNumber then .ok (v.position?.any p.before)
  else .error (uncomparable "<" kind v.kindName)

/-- Whether the value is a number that is at most `n`. -/
def isAtMost (v : Json) (n : Int) : Except Failure Bool :=
  if v.isNumber then .ok (v.position?.any (·.atMost (.ofInt n)))
  else .error (uncomparable "<=" v.kindName "int")

end LogAlert.Json
