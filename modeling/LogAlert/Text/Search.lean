/-!
# Substrings

## Main definitions

* `contains` : whether one text occurs inside another.
* `splitOn` : the parts of a text between the occurrences of a character.
* `replace` : every occurrence of a character written as a text.
-/

namespace LogAlert.Text

/-- Whether `needle` occurs in the text, at any place. -/
def contains (needle : List Char) : List Char → Bool
  | [] => needle.isEmpty
  | c :: cs => needle.isPrefixOf (c :: cs) || contains needle cs

/-- The parts of a text between the occurrences of `sep`; a text without it is one part. -/
def splitOn (sep : Char) : List Char → List (List Char)
  | [] => [[]]
  | c :: cs =>
    match splitOn sep cs with
    | [] => [[]]
    | part :: parts => if c == sep then [] :: part :: parts else (c :: part) :: parts

/-- The text with every `old` written as `new`. -/
def replace (old : Char) (new : List Char) (cs : List Char) : List Char :=
  cs.flatMap fun c => if c == old then new else [c]

/-- The texts joined with `sep` between them. -/
def join (sep : List Char) : List (List Char) → List Char
  | [] => []
  | [part] => part
  | part :: parts => part ++ sep ++ join sep parts

end LogAlert.Text
