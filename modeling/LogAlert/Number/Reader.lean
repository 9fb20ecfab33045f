import LogAlert.Number.Binary64
import LogAlert.Text.Blank
import LogAlert.Text.Class

/-!
# Reading numbers

Integers and numbers as a person may write them: blanks around, a sign, decimal digits of any
script, and single underscores between digits.

## Main definitions

* `digitLimit` : the most digits of an integer in a text.
* `trim` : a text without the blanks around it.
* `readInt?` : an integer of any length, and `readShortInt?` one within the limit.
* `readNumber?` : a decimal with an optional fraction and exponent, or a word for infinity or
  for a value that is not a number.
-/

namespace LogAlert.Number

open LogAlert.Text

/-- The most digits that an integer may have where it is read from a text or written as one. -/
def digitLimit : Nat := 4300

/-- The wording of the refusal of a longer one. -/
def limitText : String :=
  "Exceeds the limit (" ++ toString digitLimit ++ " digits) for integer string conversion"

/-- Whether an integer is short enough to be written. -/
def fits (n : Int) : Bool :=
  (Nat.toDigits 10 n.natAbs).length ≤ digitLimit

/-- The blanks that may stand around a number; the control characters 28 to 31 are none. -/
def isPadding (c : Char) : Bool :=
  isBlank c && !(0x1c ≤ c.toNat && c.toNat ≤ 0x1f)

/-- A text without the blanks around it. -/
def trim (cs : List Char) : List Char :=
  stripBy isPadding cs

/-- The value of a string of decimal digits; other characters count as zero. -/
def digitsValue (cs : List Char) : Nat :=
  cs.foldl (fun n c => n * 10 + (digitValue? c).getD 0) 0

/-- Removes underscores, each of which must stand between two digits.  `afterDigit` tells
whether the preceding character is a digit. -/
def dropSeparators (afterDigit : Bool) : List Char → Option (List Char)
  | [] => some []
  | '_' :: c :: cs =>
    if afterDigit && isDecimal c then (dropSeparators true cs).map (c :: ·) else none
  | c :: cs => if c == '_' then none else (dropSeparators (isDecimal c) cs).map (c :: ·)

/-- The sign at the front of a text, and the rest. -/
def splitSign : List Char → Bool × List Char
  | '-' :: cs => (true, cs)
  | '+' :: cs => (false, cs)
  | cs => (false, cs)

/-- An integer, however long. -/
def readInt? (cs : List Char) : Option Int := do
  let (negative, digits) := splitSign (← dropSeparators false (trim cs))
  if digits.isEmpty || !digits.all isDecimal then none
  else some (Binary64.signed negative (digitsValue digits))

/-- An integer, zeros in front counting as digits. -/
def readShortInt? (cs : List Char) : Option Int :=
  if digitLimit < (cs.filter isDecimal).length then none else readInt? cs

/-- The exponent that may follow the digits of a number. -/
def readExponent? : List Char → Option Int
  | [] => some 0
  | e :: cs =>
    if e == 'e' || e == 'E' then
      let (negative, digits) := splitSign cs
      if digits.isEmpty || !digits.all isDecimal then none
      else some (Binary64.signed negative (digitsValue digits))
    else none

/-- Digits with an optional fraction and exponent; at least one digit before the exponent. -/
def readDecimal? (negative : Bool) (cs : List Char) : Option Binary64 := do
  let whole := cs.takeWhile isDecimal
  let rest := cs.dropWhile isDecimal
  let (fraction, rest) := match rest with
    | '.' :: rest => (rest.takeWhile isDecimal, rest.dropWhile isDecimal)
    | rest => ([], rest)
  if whole.isEmpty && fraction.isEmpty then none
  else
    let exponent ← readExponent? rest
    some (.ofDecimal negative (digitsValue (whole ++ fraction)) (exponent - fraction.length))

/-- A number, or none for a text that is not one. -/
def readNumber? (cs : List Char) : Option Binary64 := do
  let (negative, body) := splitSign (← dropSeparators false (trim cs))
  let word := String.ofList (body.map Char.toLower)
  if word == "inf" || word == "infinity" then some (.infinite negative)
  else if word == "nan" then some .nan
  else readDecimal? negative body

end LogAlert.Number
