/-!
# Blank characters

White space as it is trimmed from the ends of a text.  Texts are worked on as lists of
characters.

## Main definitions

* `isBlank` : the class of white space, line breaks included.
* `stripBy`, `strip` : a text without the characters of a class at its two ends.
-/

namespace LogAlert.Text

/-- White space: the control characters 9 to 13 and 28 to 31, the space, and the spaces and
line breaks beyond ASCII. -/
def isBlank (c : Char) : Bool :=
  let n := c.toNat
  (9 ≤ n && n ≤ 13) || (0x1c ≤ n && n ≤ 0x20) || n == 0x85 || n == 0xa0 || n == 0x1680 ||
    (0x2000 ≤ n && n ≤ 0x200a) || n == 0x2028 || n == 0x2029 || n == 0x202f || n == 0x205f ||
    n == 0x3000

/-- The text without the longest runs of `p` at its two ends. -/
def stripBy (p : Char → Bool) (cs : List Char) : List Char :=
  ((cs.dropWhile p).reverse.dropWhile p).reverse

/-- The text without blanks at its two ends. -/
def strip (cs : List Char) : List Char :=
  stripBy isBlank cs

/-- The text without one line feed at its very end, if it has one. -/
def dropFinalNewline (cs : List Char) : List Char :=
  if cs.getLast? = some '\n' then cs.dropLast else cs

end LogAlert.Text
