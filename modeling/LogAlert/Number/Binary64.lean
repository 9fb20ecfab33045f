/-!
# Double precision numbers

The numbers of the IEEE 754 binary64 format, exactly: a finite number is an integer
significand times a power of two.  Every operation is the exact rational result rounded once to
the nearest number of the format, a tie going to the even significand.

## Main definitions

* `Binary64` : the numbers of the format.
* `Binary64.ofRatio` : rounding of an exact ratio.
* `Binary64.ofInt?`, `Binary64.ofDecimal` : rounding of an integer and of a decimal.
* `Position`, `Binary64.position?` : where a number lies among all numbers, NaN aside; numbers
  are compared by position.
-/

namespace LogAlert

/-- A number of the binary64 format.  A finite number is `significand * 2 ^ exponent` with a
sign, which zero has too. -/
inductive Binary64 where
  | nan
  | infinite (negative : Bool)
  | finite (negative : Bool) (significand : Nat) (exponent : Int)
  deriving DecidableEq, Repr, Inhabited

/-- The integer nearest to `num / den`; a tie goes to the even one. -/
def roundRatio (num den : Nat) : Nat :=
  let q := num / den
  let r := num % den
  if 2 * r < den then q
  else if den < 2 * r then q + 1
  else if q % 2 == 0 then q else q + 1

/-- Where a number lies on the line of all numbers: `rank` tells whether it is below, among or
above the finite ones, and `units` counts a finite value in units of `2 ^ -1074`, which is
exact for integers and for every number of the format. -/
structure Position where
  rank : Int
  units : Int
  deriving DecidableEq, Repr, Inhabited

namespace Position

/-- Whether the first number is less than the second. -/
def before (a b : Position) : Bool :=
  a.rank < b.rank || (a.rank == b.rank && a.units < b.units)

/-- Whether the first number is at most the second. -/
def atMost (a b : Position) : Bool :=
  a == b || a.before b

/-- One in units of `2 ^ -1074`. -/
def one : Nat := Nat.pow 2 1074

/-- Where an integer lies. -/
def ofInt (n : Int) : Position :=
  ⟨0, n * one⟩

end Position

namespace Binary64

/-- The least exponent: the unit in the last place of the smallest numbers is `2 ^ -1074`. -/
def minExponent : Int := -1074

/-- The exponent of the largest finite numbers. -/
def maxExponent : Int := 971

/-- Zero with a sign. -/
def zero (negative : Bool) : Binary64 :=
  .finite negative 0 minExponent

/-- `num / den` times `2 ^ -e`, as a ratio. -/
def scaleDown (num den : Nat) (e : Int) : Nat × Nat :=
  if 0 ≤ e then (num, den * Nat.pow 2 e.toNat) else (num * Nat.pow 2 (-e).toNat, den)

/-- The exponent `e` with `2 ^ e ≤ num / den < 2 ^ (e + 1)`, for a positive ratio. -/
def floorLog2 (num den : Nat) : Int :=
  let e : Int := num.log2 - den.log2
  let (a, b) := scaleDown num den e
  if a < b then e - 1 else e

/-- The number nearest to `num / den` with the given sign; past the largest number it is
infinite. -/
def ofRatio (negative : Bool) (num den : Nat) : Binary64 :=
  if num == 0 then zero negative
  else
    let e := max (floorLog2 num den - 52) minExponent
    let (a, b) := scaleDown num den e
    let m := roundRatio a b
    let (m, e) := if m == Nat.pow 2 53 then (Nat.pow 2 52, e + 1) else (m, e)
    if maxExponent < e then .infinite negative else .finite negative m e

/-- The number nearest to a ratio with an integer above. -/
def ofIntRatio (num : Int) (den : Nat) : Binary64 :=
  ofRatio (num < 0) num.natAbs den

/-- The number nearest to an integer; none beyond the finite numbers. -/
def ofInt? (n : Int) : Option Binary64 :=
  match ofIntRatio n 1 with
  | .infinite _ => none
  | x => some x

/-- The number nearest to `digits * 10 ^ exponent`.  Decimals far outside the range are not
multiplied out. -/
def ofDecimal (negative : Bool) (digits : Nat) (exponent : Int) : Binary64 :=
  if digits == 0 then zero negative
  else
    let magnitude : Int := (Nat.toDigits 10 digits).length + exponent
    if 310 < magnitude then .infinite negative
    else if magnitude < -330 then zero negative
    else if 0 ≤ exponent then ofRatio negative (digits * Nat.pow 10 exponent.toNat) 1
    else ofRatio negative digits (Nat.pow 10 (-exponent).toNat)

/-- The magnitude of `significand * 2 ^ exponent` as a ratio. -/
def ratio (significand : Nat) (exponent : Int) : Nat × Nat :=
  if 0 ≤ exponent then (significand * Nat.pow 2 exponent.toNat, 1)
  else (significand, Nat.pow 2 (-exponent).toNat)

/-- An integer with a sign. -/
def signed (negative : Bool) (n : Nat) : Int :=
  if negative then -n else n

/-- Where a number lies. -/
def position? : Binary64 → Option Position
  | .nan => none
  | .infinite negative => some ⟨signed negative 1, 0⟩
  | .finite negative m e => some ⟨0, signed negative (m * Nat.pow 2 (e - minExponent).toNat)⟩

/-- Whether the number is not a number. -/
def isNan : Binary64 → Bool
  | .nan => true
  | _ => false

/-- Whether the number is zero, with either sign. -/
def isZero : Binary64 → Bool
  | .finite _ m _ => m == 0
  | _ => false

/-- The whole part of a finite number, toward zero. -/
def truncate (negative : Bool) (significand : Nat) (exponent : Int) : Int :=
  let (a, b) := ratio significand exponent
  signed negative (a / b)

/-- A sum of finite numbers in units of `2 ^ -1074`, rounded to the format. -/
def ofUnits (units : Int) : Binary64 :=
  ofIntRatio units Position.one

end Binary64

end LogAlert
