import LogAlert.Text.Lower
import LogAlert.Text.Search

/-!
# Source patterns

A pattern is literal text in which each star stands for any number of characters of one line.
It matches a text that contains what it describes, whatever the case of letters.

## Main definitions

* `Pattern.partsMatch` : whether literal parts, with gaps between them, start a text.
* `Pattern.occursIn` : whether a pattern matches a text.
-/

namespace LogAlert.Pattern

/-- What follows a literal at the front of a text, case being ignored. -/
def afterLiteral? : List Char → List Char → Option (List Char)
  | [], cs => some cs
  | p :: ps, cs =>
    match cs with
    | c :: cs => if Text.sameLetter p c then afterLiteral? ps cs else none
    | [] => none

/-- Whether `f` accepts what follows some gap without a line feed. -/
def afterGap (f : List Char → Bool) : List Char → Bool
  | [] => f []
  | c :: cs => f (c :: cs) || (c != '\n' && afterGap f cs)

/-- Whether the parts stand at the front of a text, one after the other with gaps between
them. -/
def partsMatch : List (List Char) → List Char → Bool
  | [], _ => true
  | part :: parts, cs =>
    match afterLiteral? part cs with
    | none => false
    | some rest => if parts.isEmpty then true else afterGap (partsMatch parts) rest

/-- Whether `f` accepts the text from some place on. -/
def anywhere (f : List Char → Bool) : List Char → Bool
  | [] => f []
  | c :: cs => f (c :: cs) || anywhere f cs

/-- Whether a pattern matches a text. -/
def occursIn (pattern text : String) : Bool :=
  anywhere (partsMatch (Text.splitOn '*' pattern.toList)) text.toList

end LogAlert.Pattern
