import LogAlert.Number.Binary64

/-!
# The shortest decimal of a double precision number

The written form of a number has as few digits as identify it: no decimal with fewer digits
rounds to the same number.  Among the decimals of that length it is the one nearest to the
number.

## Main definitions

* `Binary64.shortest` : the digits and the place of the decimal point.
* `Binary64.toText` : the written form, positional from `10 ^ -4` up to `10 ^ 16` and with an
  exponent outside.
-/

namespace LogAlert.Binary64

/-- The least `k` with `num / den < 10 ^ k`, for a positive ratio of this format's range. -/
def decimalPoint (num den : Nat) : Int :=
  let guess := (floorLog2 num den * 30103).fdiv 100000
  let isBelow (k : Int) : Bool :=
    if 0 ≤ k then num < den * Nat.pow 10 k.toNat else num * Nat.pow 10 (-k).toNat < den
  (([-1, 0, 1, 2, 3].map (guess + ·)).find? isBelow).getD (guess + 3)

/-- The decimal with `count` significant digits nearest to `num / den`, a tie going to the even
digit, or else its neighbour on the other side, if it rounds to the number with the given
significand and exponent. -/
def nearestDecimal? (significand : Nat) (exponent : Int) (num den : Nat) (point : Int)
    (count : Nat) : Option Nat :=
  let place : Int := point - count
  let (a, b) := if 0 ≤ place then (num, den * Nat.pow 10 place.toNat)
    else (num * Nat.pow 10 (-place).toNat, den)
  let below := a / b
  let fits (d : Nat) : Bool := ofDecimal false d place == .finite false significand exponent
  let first := roundRatio a b
  let second := if first == below then below + 1 else below
  if fits first then some first else if fits second then some second else none

/-- The fewest digits, as an integer, and the place of the decimal point counted from their
left end. -/
def shortest (significand : Nat) (exponent : Int) : Nat × Int :=
  let (num, den) := ratio significand exponent
  let point := decimalPoint num den
  ((List.range 17).findSome? fun n =>
    (nearestDecimal? significand exponent num den point (n + 1)).map fun d =>
      if d == Nat.pow 10 (n + 1) then (1, point + 1) else (d, point)).getD (significand, point)

/-- The digits without the zeros at their right end. -/
def trimZeros (digits : List Char) : List Char :=
  (digits.reverse.dropWhile (· == '0')).reverse

/-- The exponent of a written number: a sign and at least two digits. -/
def exponentText (e : Int) : List Char :=
  let digits := Nat.toDigits 10 e.natAbs
  (if e < 0 then '-' else '+') :: (if digits.length < 2 then '0' :: digits else digits)

/-- Digits and the place of the point as a written number. -/
def layout (digits : List Char) (point : Int) : List Char :=
  let digits := match trimZeros digits with
    | [] => ['0']
    | ds => ds
  if -4 < point && point ≤ 16 then
    if point ≤ 0 then
      '0' :: '.' :: (List.replicate (-point).toNat '0' ++ digits)
    else if point.toNat < digits.length then
      digits.take point.toNat ++ '.' :: digits.drop point.toNat
    else
      digits ++ List.replicate (point.toNat - digits.length) '0' ++ ['.', '0']
  else
    let tail := digits.drop 1
    digits.take 1 ++ (if tail.isEmpty then [] else '.' :: tail) ++ 'e' :: exponentText (point - 1)

/-- The written form of a number. -/
def toText : Binary64 → List Char
  | .nan => ['n', 'a', 'n']
  | .infinite negative => (if negative then ['-'] else []) ++ ['i', 'n', 'f']
  | .finite negative m e =>
    (if negative then ['-'] else []) ++
      if m == 0 then ['0', '.', '0']
      else
        let (digits, point) := shortest m e
        layout (Nat.toDigits 10 digits) point

end LogAlert.Binary64
