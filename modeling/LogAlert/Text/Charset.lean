import LogAlert.Text.CharsetTable
import LogAlert.Text.Search
import LogAlert.Text.Utf8

/-!
# Character sets

Octets as text in one of the usual character sets, which go by many names.

## Main definitions

* `Charset` : the character sets.
* `Charset.named?` : the character set with a name.
* `Charset.decode?` : the text of octets, unless some of them stand for no character.
-/

namespace LogAlert.Text

/-- A character set. -/
inductive Charset where
  | ascii
  | latin1
  | utf8
  | table (t : OctetTable)
  deriving DecidableEq, Repr, Inhabited

namespace Charset

/-- A name in lower case, with single underscores for the marks inside it. -/
def plainName (name : List Char) : List Char :=
  let marked := name.map fun c => if c.isAlphanum || c == '.' then c.toLower else '_'
  join ['_'] ((splitOn '_' marked).filter fun part => !part.isEmpty)

/-- The names of a character set, with marks written as underscores. -/
def names : Charset → List String
  | ascii =>
    ["646", "ansi_x3.4_1968", "ansi_x3.4_1986", "ansi_x3_4_1968", "ascii", "cp367", "csascii",
      "ibm367", "iso646_us", "iso_646.irv_1991", "iso_ir_6", "us", "us_ascii"]
  | latin1 =>
    ["8859", "cp819", "csisolatin1", "ibm819", "iso8859", "iso8859_1", "iso_8859_1",
      "iso_8859_1_1987", "iso_ir_100", "l1", "latin", "latin1", "latin_1"]
  | utf8 => ["cp65001", "u8", "utf", "utf8", "utf8_ucs2", "utf8_ucs4", "utf_8"]
  | table t => t.names

/-- All character sets. -/
def all : List Charset :=
  [ascii, latin1, utf8] ++ OctetTable.all.map table

/-- The character set with a name. -/
def named? (name : List Char) : Option Charset :=
  let plain := String.ofList (plainName name)
  all.find? fun s => s.names.contains plain

/-- The character that an octet stands for by itself. -/
def single? (s : Charset) (octet : UInt8) : Option Char :=
  let n := octet.toNat
  match s with
  | ascii | utf8 => if n < 128 then some (Char.ofNat n) else none
  | latin1 => some (Char.ofNat n)
  | table t => if n < t.first then some (Char.ofNat n) else t.character? (n - t.first)

/-- The text of octets, unless some of them stand for no character. -/
def decode? (s : Charset) (octets : List UInt8) : Option (List Char) :=
  match s with
  | utf8 =>
    let cs := Utf8.decode octets
    if Utf8.encode cs == octets then some cs else none
  | s => octets.mapM s.single?

end Charset

end LogAlert.Text
