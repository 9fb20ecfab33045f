/-!
# Base 64

Octets written in groups of four digits of six bits each.  Characters that are no digits are
passed over, and equals signs end the text once they complete a group.

## Main definitions

* `Base64.digit?` : the value of a digit.
* `Base64.decode?` : the octets of a text, which must end with a complete group.
-/

namespace LogAlert.Text.Base64

/-- The value of a digit. -/
def digit? (c : Char) : Option Nat :=
  let n := c.toNat
  if 'A' ≤ c && c ≤ 'Z' then some (n - 65)
  else if 'a' ≤ c && c ≤ 'z' then some (n - 97 + 26)
  else if '0' ≤ c && c ≤ '9' then some (n - 48 + 52)
  else if c == '+' then some 62
  else if c == '/' then some 63
  else none

/-- The octets of the rest of a text.  Of the current group `count` digits are read, `left` is
the value of their bits that are not yet part of an octet, and `pads` equals signs followed
them. -/
def decodeAfter (count left pads : Nat) : List Char → Option (List UInt8)
  | [] => if count == 0 then some [] else none
  | c :: cs =>
    if c == '=' then
      if count < 2 then decodeAfter count left pads cs
      else if 4 ≤ count + pads + 1 then some []
      else decodeAfter count left (pads + 1) cs
    else
      match digit? c with
      | none => decodeAfter count left pads cs
      | some v =>
        match count with
        | 0 => decodeAfter 1 v 0 cs
        | 1 => (decodeAfter 2 (v % 16) 0 cs).map (UInt8.ofNat (left * 4 + v / 16) :: ·)
        | 2 => (decodeAfter 3 (v % 4) 0 cs).map (UInt8.ofNat (left * 16 + v / 4) :: ·)
        | _ => (decodeAfter 0 0 0 cs).map (UInt8.ofNat (left * 64 + v) :: ·)

/-- The octets of a text. -/
def decode? (cs : List Char) : Option (List UInt8) :=
  decodeAfter 0 0 0 cs

end LogAlert.Text.Base64
