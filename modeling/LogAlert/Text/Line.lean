/-!
# Lines

Cutting octets and texts into lines.

## Main definitions

* `completeLines` : the lines that end in a line feed, each with it; what follows the last
  line feed is left out.
* `unifyBreaks` : every line break written as one line feed.
* `lines` : all lines of a text, the last one also without a line feed.
-/

namespace LogAlert.Text

/-- Cuts after every element that satisfies `isEnd`.  The second component is what follows the
last cut. -/
def cutAfter {α : Type} (isEnd : α → Bool) : List α → List (List α) × List α
  | [] => ([], [])
  | x :: xs =>
    match cutAfter isEnd xs with
    | (ls, tail) =>
      if isEnd x then ([x] :: ls, tail)
      else match ls with
        | l :: ls => ((x :: l) :: ls, tail)
        | [] => ([], x :: tail)

/-- The lines of a sequence of octets that end in a line feed. -/
def completeLines (octets : List UInt8) : List (List UInt8) :=
  (cutAfter (· == 10) octets).1

/-- The text with each of CR LF, CR and LF written as LF. -/
def unifyBreaks : List Char → List Char
  | [] => []
  | '\r' :: '\n' :: cs => '\n' :: unifyBreaks cs
  | c :: cs => (if c == '\r' then '\n' else c) :: unifyBreaks cs

/-- The lines of a text, each with its line feed; the last one may lack it. -/
def lines (cs : List Char) : List (List Char) :=
  let (ls, tail) := cutAfter (· == '\n') cs
  if tail.isEmpty then ls else ls ++ [tail]

end LogAlert.Text
