import LogAlert.Json.Value
import LogAlert.Number.Reader

/-!
# Writing JSON

One line of printable ASCII, with a blank after each comma and colon.  Other characters
are escaped as UTF-16 code units.

Two things are idealized.  Values are written to any depth, and `Json.write` writes integers of any
length, though one of more than `Number.digitLimit` digits is not read back.  `Json.fits` tells
whether a value has no such integer; a search refuses the others, and stores and messages write
them.  Texts have no halves of surrogate pairs that stand alone, so there is no escape of one.

## Main definitions

* `Json.write` : the document for a value, fields in their order.
* `Json.fits` : whether all integers of a value are within the limit.
* `Json.sortKeys` : the value with the fields of all its objects in ascending order of keys.
-/

namespace LogAlert.Json

/-- The escape of a UTF-16 code unit. -/
def unitEscape (n : Nat) : List Char :=
  '\\' :: 'u' :: Text.hexDigits 4 n

/-- The written form of one character of a text. -/
def writeChar (c : Char) : List Char :=
  let n := c.toNat
  if c == '"' || c == '\\' then ['\\', c]
  else if c == '\n' then ['\\', 'n']
  else if c == '\r' then ['\\', 'r']
  else if c == '\t' then ['\\', 't']
  else if n == 8 then ['\\', 'b']
  else if n == 12 then ['\\', 'f']
  else if 32 ≤ n && n < 127 then [c]
  else if n < 0x10000 then unitEscape n
  else unitEscape (0xd800 + (n - 0x10000) / 0x400) ++ unitEscape (0xdc00 + (n - 0x10000) % 0x400)

/-- The written form of a text, with its quotation marks. -/
def writeText (s : String) : List Char :=
  '"' :: (s.toList.flatMap writeChar ++ ['"'])

/-- The written form of a number of double precision. -/
def writeFloat : Binary64 → List Char
  | .nan => "NaN".toList
  | .infinite negative => (if negative then ['-'] else []) ++ "Infinity".toList
  | x => x.toText

mutual

/-- The written form of a value. -/
def writeChars : Json → List Char
  | .null => "null".toList
  | .bool b => if b then "true".toList else "false".toList
  | .int n => intText n
  | .float x => writeFloat x
  | .str s => writeText s
  | .arr items => '[' :: (writeItems items ++ [']'])
  | .obj fields => '\x7b' :: (writeFields fields ++ ['\x7d'])

/-- The written items of an array, separated by commas. -/
def writeItems : List Json → List Char
  | [] => []
  | x :: xs => writeChars x ++ (if xs.isEmpty then [] else ',' :: ' ' :: writeItems xs)

/-- The written fields of an object, separated by commas. -/
def writeFields : Fields → List Char
  | [] => []
  | (key, x) :: fs =>
    writeText key ++ ':' :: ' ' :: writeChars x ++
      (if fs.isEmpty then [] else ',' :: ' ' :: writeFields fs)

end

mutual

/-- Whether all integers of a value, at any depth, have at most `Number.digitLimit` digits. -/
def fits : Json → Bool
  | .int n => Number.fits n
  | .arr items => itemsFit items
  | .obj fields => fieldsFit fields
  | .null | .bool _ | .float _ | .str _ => true

/-- Whether all integers of all items of an array have. -/
def itemsFit : List Json → Bool
  | [] => true
  | x :: xs => fits x && itemsFit xs

/-- Whether all integers of all fields of an object have. -/
def fieldsFit : Fields → Bool
  | [] => true
  | (_, x) :: fs => fits x && fieldsFit fs

end

/-- The document for a value. -/
def write (v : Json) : String :=
  String.ofList v.writeChars

/-- Fields in ascending order of keys. -/
def sortByKey (fields : Fields) : Fields :=
  fields.mergeSort fun f g => f.1 ≤ g.1

mutual

/-- The value with the fields of its objects in ascending order of keys, at every depth. -/
def sortKeys : Json → Json
  | .arr items => .arr (sortItems items)
  | .obj fields => .obj (sortByKey (sortFields fields))
  | v => v

/-- The items with the fields of their objects in order. -/
def sortItems : List Json → List Json
  | [] => []
  | x :: xs => sortKeys x :: sortItems xs

/-- The fields with the fields of objects inside them in order. -/
def sortFields : Fields → Fields
  | [] => []
  | (key, x) :: fs => (key, sortKeys x) :: sortFields fs

end

/-- A value as text: a text as it is, and any other value, if it `fits`, as its document with sorted
keys. -/
def asText : Json → String
  | .str s => s
  | v => v.sortKeys.write

end LogAlert.Json
