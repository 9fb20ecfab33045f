import LogAlert.Text.Utf8

/-!
# Form encoding

Fields and values written into the body of a form: the octets of the UTF-8 form, a space as a
plus sign, and all but letters, digits and four marks as percent escapes.

## Main definitions

* `Form.encodeText` : one field or value.
* `Form.encode` : the body for a list of fields.
-/

namespace LogAlert.Text.Form

/-- Whether the octet is written as the ASCII character it is. -/
def isSafe (b : UInt8) : Bool :=
  let c := Char.ofNat b.toNat
  b < 128 && (c.isAlphanum || c == '_' || c == '.' || c == '-' || c == '~')

/-- The hexadecimal digit for a value below sixteen, in capitals. -/
def hexDigit (n : Nat) : Char :=
  Char.ofNat (if n < 10 then 48 + n else 55 + n)

/-- The written form of one octet. -/
def encodeOctet (b : UInt8) : List Char :=
  if isSafe b then [Char.ofNat b.toNat]
  else if b == 32 then ['+']
  else ['%', hexDigit (b.toNat / 16), hexDigit (b.toNat % 16)]

/-- The written form of a field name or value. -/
def encodeText (cs : List Char) : List Char :=
  (Utf8.encode cs).flatMap encodeOctet

/-- The body of a form with the given fields, in order. -/
def encode (fields : List (String × String)) : String :=
  String.intercalate "&" <| fields.map fun (name, value) =>
    String.ofList (encodeText name.toList ++ '=' :: encodeText value.toList)

end LogAlert.Text.Form
