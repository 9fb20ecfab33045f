/-!
# UTF-8

Reading octets as text.  An ill-formed part is read as one replacement character: the longest
start of a character that the following octets break off, or a single octet that starts none.

## Main definitions

* `Utf8.decode` : the text of a sequence of octets.
* `Utf8.encode` : the octets of a text.
-/

namespace LogAlert.Text.Utf8

/-- The replacement character. -/
def replacement : Char := '\ufffd'

/-- Whether the octet continues a character. -/
def isTail (b : UInt8) : Bool :=
  0x80 ≤ b && b ≤ 0xbf

/-- The six bits that a continuing octet carries. -/
def tailBits (b : UInt8) : Nat :=
  b.toNat % 64

/-- The octets that may follow the first octet of a character of three or four octets. -/
def secondRange (lead : UInt8) : UInt8 × UInt8 :=
  if lead == 0xe0 then (0xa0, 0xbf)
  else if lead == 0xed then (0x80, 0x9f)
  else if lead == 0xf0 then (0x90, 0xbf)
  else if lead == 0xf4 then (0x80, 0x8f)
  else (0x80, 0xbf)

/-- Whether `b` may follow the first octet `lead`. -/
def secondFits (lead b : UInt8) : Bool :=
  (secondRange lead).1 ≤ b && b ≤ (secondRange lead).2

/-- The character that starts with the octet `lead`, and how many of the following octets it
takes. -/
def decodeChar (lead : UInt8) (rest : List UInt8) : Char × Nat :=
  if lead < 0x80 then (Char.ofNat lead.toNat, 0)
  else if 0xc2 ≤ lead && lead ≤ 0xdf then
    match rest with
    | b :: _ =>
      if isTail b then (Char.ofNat (lead.toNat % 32 * 64 + tailBits b), 1) else (replacement, 0)
    | [] => (replacement, 0)
  else if 0xe0 ≤ lead && lead ≤ 0xef then
    match rest with
    | b :: c :: _ =>
      if !secondFits lead b then (replacement, 0)
      else if isTail c then
        (Char.ofNat (lead.toNat % 16 * 4096 + tailBits b * 64 + tailBits c), 2)
      else (replacement, 1)
    | [b] => (replacement, if secondFits lead b then 1 else 0)
    | [] => (replacement, 0)
  else if 0xf0 ≤ lead && lead ≤ 0xf4 then
    match rest with
    | b :: c :: d :: _ =>
      if !secondFits lead b then (replacement, 0)
      else if !isTail c then (replacement, 1)
      else if isTail d then
        (Char.ofNat
          (lead.toNat % 8 * 262144 + tailBits b * 4096 + tailBits c * 64 + tailBits d), 3)
      else (replacement, 2)
    | [b, c] =>
      (replacement, if !secondFits lead b then 0 else if isTail c then 2 else 1)
    | [b] => (replacement, if secondFits lead b then 1 else 0)
    | [] => (replacement, 0)
  else (replacement, 0)

/-- The text of a sequence of octets. -/
def decode : List UInt8 → List Char
  | [] => []
  | lead :: rest =>
    (decodeChar lead rest).1 :: decode (rest.drop (decodeChar lead rest).2)
termination_by octets => octets.length
decreasing_by simp only [List.length_cons, List.length_drop]; omega

/-- The octets of a text. -/
def encode (cs : List Char) : List UInt8 :=
  cs.flatMap String.utf8EncodeChar

end LogAlert.Text.Utf8
