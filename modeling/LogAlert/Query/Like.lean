import LogAlert.Text.Search

/-!
# Patterns for text columns

A term as a pattern of a store that matches columns with the wildcards `%` and `_`.  A backslash
takes its meaning from the character behind it.

## Main definitions

* `Query.escapeLike` : the pattern that matches every text containing a term.
-/

namespace LogAlert.Query

/-- The text with a backslash before every `mark`. -/
def escapeMark (mark : Char) (cs : List Char) : List Char :=
  Text.replace mark ['\\', mark] cs

/-- The text with a backslash before every backslash and every wildcard.  The backslashes come
first, so that those put before wildcards are not taken for characters of the text. -/
def escapeMarks (cs : List Char) : List Char :=
  escapeMark '_' (escapeMark '%' (escapeMark '\\' cs))

/-- The pattern that matches every text containing the term. -/
def escapeLike (term : List Char) : List Char :=
  '%' :: (escapeMarks term ++ ['%'])

end LogAlert.Query
