/-!
# Line breaks of all kinds

Cutting a text at every character or pair of characters that breaks a line.

## Main definitions

* `isBreak` : the characters that break a line.
* `splitBreaks` : the lines of a text, without their breaks.
-/

namespace LogAlert.Text

/-- The characters that break a line. -/
def isBreak (c : Char) : Bool :=
  let n := c.toNat
  (10 ≤ n && n ≤ 13) || (0x1c ≤ n && n ≤ 0x1e) || n == 0x85 || n == 0x2028 || n == 0x2029

/-- Cuts a text at its line breaks.  `line` is what is already read of the current line, in
reverse. -/
def splitBreaksAfter (line : List Char) : List Char → List (List Char)
  | [] => if line.isEmpty then [] else [line.reverse]
  | '\r' :: '\n' :: cs => line.reverse :: splitBreaksAfter [] cs
  | c :: cs =>
    if isBreak c then line.reverse :: splitBreaksAfter [] cs else splitBreaksAfter (c :: line) cs

/-- The lines of a text, without their breaks; a break at the end starts no further line. -/
def splitBreaks (cs : List Char) : List (List Char) :=
  splitBreaksAfter [] cs

end LogAlert.Text
