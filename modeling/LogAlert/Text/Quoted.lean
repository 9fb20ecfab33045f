import LogAlert.Text.Class

/-!
# Quoted texts

A text between quotation marks, as error messages and notifications show it.

## Main definitions

* `quoted` : single quotes, or double quotes for a text with single quotes only; the quote
  used, backslashes, line breaks, tabs and unprintable characters are escaped.
-/

namespace LogAlert.Text

/-- The hexadecimal digit for a value below sixteen. -/
def lowerHexDigit (n : Nat) : Char :=
  Char.ofNat (if n < 10 then 48 + n else 87 + n)

/-- The last `width` hexadecimal digits of a number. -/
def hexDigits : Nat → Nat → List Char
  | 0, _ => []
  | width + 1, n => hexDigits width (n / 16) ++ [lowerHexDigit (n % 16)]

/-- One character of a text within the given quotation marks. -/
def quotedChar (mark c : Char) : List Char :=
  if c == mark || c == '\\' then ['\\', c]
  else if c == '\n' then ['\\', 'n']
  else if c == '\r' then ['\\', 'r']
  else if c == '\t' then ['\\', 't']
  else if isPrintable c then [c]
  else if c.toNat < 0x100 then '\\' :: 'x' :: hexDigits 2 c.toNat
  else if c.toNat < 0x10000 then '\\' :: 'u' :: hexDigits 4 c.toNat
  else '\\' :: 'U' :: hexDigits 8 c.toNat

/-- A text between quotation marks. -/
def quoted (cs : List Char) : List Char :=
  let mark := if cs.contains '\x27' && !cs.contains '"' then '"' else '\x27'
  mark :: (cs.flatMap (quotedChar mark) ++ [mark])

end LogAlert.Text
