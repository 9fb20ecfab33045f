import LogAlert.Text.WordTable
import LogAlert.Text.PrintTable
import LogAlert.Text.DigitTable

/-!
# Character classes

Membership in the classes that the query language and the printed forms of values are stated
in.  Beyond ASCII a class is a table of the code points where membership changes.

## Main definitions

* `isWord` : letters, digits, numeric characters and the underscore.
* `digitValue?` : the value of a decimal digit of any script.
* `isPrintable` : the characters written as themselves in a quoted text.
-/

namespace LogAlert.Text

/-- Whether `n` is in the set that begins outside and switches at every listed point, for an
ascending list. -/
def inBounds : List Nat → Nat → Bool
  | [], _ => false
  | b :: bs, n => if n < b then false else !(inBounds bs n)

/-- Letters, digits, other characters with a numeric value, and the underscore. -/
def isWord (c : Char) : Bool :=
  if c.toNat < 128 then c.isAlphanum || c == '_' else inBounds wordBounds c.toNat

/-- The value of a decimal digit of any script. -/
def digitValue? (c : Char) : Option Nat :=
  let n := c.toNat
  if n < 128 then
    if c.isDigit then some (n - 48) else none
  else
    (digitZeros.find? fun z => z ≤ n && n < z + 10).map (n - ·)

/-- Whether the character is a decimal digit of some script. -/
def isDecimal (c : Char) : Bool :=
  (digitValue? c).isSome

/-- Whether a quoted text shows the character as itself. -/
def isPrintable (c : Char) : Bool :=
  let n := c.toNat
  if n < 128 then 32 ≤ n && n < 127 else inBounds printBounds n

end LogAlert.Text
