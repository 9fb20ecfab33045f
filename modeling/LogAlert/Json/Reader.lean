import LogAlert.Json.Value
import LogAlert.Number.Reader

/-!
# Reading JSON

A strict reader of JSON documents that also knows the three words for values that are not
finite numbers.  A number with a fraction or an exponent is of double precision, and any other
one an integer.  Of fields with the same key the last one counts.

Two things are idealized.  Values may be nested to any depth, where an interpreter stops at the
limit of its stack.  Texts are sequences of Unicode characters, so an escaped half of a surrogate
pair that stands alone is read as the replacement character.  The limit of `Number.digitLimit`
digits for integers is kept.

## Main definitions

* `Json.Problem`, `Json.SyntaxError` : what is wrong with a document, and where.
* `Json.read` : the value of a document.
-/

namespace LogAlert.Json

/-- What can be wrong with a document. -/
inductive Problem where
  | byteOrderMark
  | noValue
  | noKey
  | noColon
  | noComma
  | extraData
  | unterminatedText
  | controlCharacter
  | badEscape
  | badUnitEscape
  | tooManyDigits (count : Nat)
  deriving DecidableEq, Repr, Inhabited

/-- The wording of a problem. -/
def Problem.message : Problem → String
  | .byteOrderMark => "Unexpected UTF-8 BOM (decode using utf-8-sig)"
  | .noValue => "Expecting value"
  | .noKey => "Expecting property name enclosed in double quotes"
  | .noColon => "Expecting ':' delimiter"
  | .noComma => "Expecting ',' delimiter"
  | .extraData => "Extra data"
  | .unterminatedText => "Unterminated string starting at"
  | .controlCharacter => "Invalid control character at"
  | .badEscape => "Invalid \\escape"
  | .badUnitEscape => "Invalid \\uXXXX escape"
  | .tooManyDigits count =>
    Number.limitText ++ ": value has " ++ toString count ++
      " digits; use sys.set_int_max_str_digits() to increase the limit"

/-- A problem at a place of a document, lines and columns counted from one and the offset from
zero. -/
structure SyntaxError where
  problem : Problem
  line : Nat
  column : Nat
  offset : Nat
  deriving DecidableEq, Repr, Inhabited

/-- The wording of an error, with its place where it has one. -/
def SyntaxError.message (e : SyntaxError) : String :=
  match e.problem with
  | .tooManyDigits _ => e.problem.message
  | problem =>
    problem.message ++ ": line " ++ toString e.line ++ " column " ++ toString e.column ++
      " (char " ++ toString e.offset ++ ")"

namespace Reader

/-- A problem, and how many characters of the document are left from its place on. -/
structure Fault where
  problem : Problem
  left : Nat

/-- What was read of a document, and what follows it. -/
abbrev Reading (α : Type) := α × List Char

/-- A problem at the front of `rest`. -/
def fail {α : Type} (problem : Problem) (rest : List Char) : Except Fault α :=
  .error ⟨problem, rest.length⟩

/-- Blanks between the parts of a document. -/
def isSpace (c : Char) : Bool :=
  c == ' ' || c == '\t' || c == '\n' || c == '\r'

/-- The text from the first character on that is not a blank. -/
def skipSpace (cs : List Char) : List Char :=
  cs.dropWhile isSpace

/-- The value of a hexadecimal digit. -/
def hexValue? (c : Char) : Option Nat :=
  let n := c.toNat
  if 48 ≤ n && n ≤ 57 then some (n - 48)
  else if 65 ≤ n && n ≤ 70 then some (n - 55)
  else if 97 ≤ n && n ≤ 102 then some (n - 87)
  else none

/-- The value of four hexadecimal digits. -/
def unitValue? (a b c d : Char) : Option Nat := do
  some ((← hexValue? a) * 4096 + (← hexValue? b) * 256 + (← hexValue? c) * 16 + (← hexValue? d))

/-- The code point that a one-letter escape stands for. -/
def escapeValue? (c : Char) : Option Nat :=
  if c == '"' || c == '\\' || c == '/' then some c.toNat
  else if c == 'b' then some 8
  else if c == 'f' then some 12
  else if c == 'n' then some 10
  else if c == 'r' then some 13
  else if c == 't' then some 9
  else none

/-- The code points and escaped code units of a text, up to its closing quotation mark.
`opening` is the number of characters left at the opening mark. -/
def textUnits (opening : Nat) : List Char → Except Fault (Reading (List Nat))
  | [] => .error ⟨.unterminatedText, opening⟩
  | '"' :: cs => .ok ([], cs)
  | ['\\'] => .error ⟨.unterminatedText, opening⟩
  | '\\' :: 'u' :: cs =>
    match cs with
    | a :: b :: c :: d :: x :: rest =>
      match unitValue? a b c d with
      | some n => do
        let (units, rest) ← textUnits opening (x :: rest)
        .ok (n :: units, rest)
      | none => fail .badUnitEscape ('u' :: cs)
    | _ => fail .badUnitEscape ('u' :: cs)
  | '\\' :: e :: cs =>
    match escapeValue? e with
    | some n => do
      let (units, rest) ← textUnits opening cs
      .ok (n :: units, rest)
    | none => fail .badEscape ('\\' :: e :: cs)
  | c :: cs =>
    if c.toNat < 32 then fail .controlCharacter (c :: cs)
    else do
      let (units, rest) ← textUnits opening cs
      .ok (c.toNat :: units, rest)

/-- Whether the code unit is the first half of a pair. -/
def isHighHalf (n : Nat) : Bool :=
  0xd800 ≤ n && n < 0xdc00

/-- Whether the code unit is the second half of a pair. -/
def isLowHalf (n : Nat) : Bool :=
  0xdc00 ≤ n && n < 0xe000

/-- The character of a code point; a lone half of a pair becomes the replacement character. -/
def charOf (n : Nat) : Char :=
  if isHighHalf n || isLowHalf n then '\ufffd' else Char.ofNat n

/-- The characters of code points and code units, two halves that follow each other joined. -/
def joinUnits : List Nat → List Char
  | [] => []
  | [n] => [charOf n]
  | high :: low :: rest =>
    if isHighHalf high && isLowHalf low then
      Char.ofNat (0x10000 + (high - 0xd800) * 0x400 + (low - 0xdc00)) :: joinUnits rest
    else charOf high :: joinUnits (low :: rest)

/-- The text that follows an opening quotation mark. -/
def readText (cs : List Char) : Except Fault (Reading String) := do
  let (units, rest) ← textUnits (cs.length + 1) cs
  .ok (String.ofList (joinUnits units), rest)

/-- Whether the character is one of the ten ASCII digits. -/
def isDigit (c : Char) : Bool :=
  c.isDigit

/-- The digits of the whole part of a number: a zero, or digits that do not start with one. -/
def wholeDigits : List Char → List Char × List Char
  | '0' :: cs => (['0'], cs)
  | cs => (cs.takeWhile isDigit, cs.dropWhile isDigit)

/-- The digits of a fraction, which are read only if there is one at least. -/
def fractionDigits (cs : List Char) : Option (List Char × List Char) :=
  match cs with
  | '.' :: c :: rest =>
    if isDigit c then some (c :: rest.takeWhile isDigit, rest.dropWhile isDigit) else none
  | _ => none

/-- The sign and digits of an exponent, which are read only if there is a digit at least. -/
def exponentDigits (cs : List Char) : Option ((Bool × List Char) × List Char) :=
  match cs with
  | e :: rest =>
    if e == 'e' || e == 'E' then
      let (negative, rest) := Number.splitSign rest
      let digits := rest.takeWhile isDigit
      if digits.isEmpty then none else some ((negative, digits), rest.dropWhile isDigit)
    else none
  | [] => none

/-- A number. -/
def readNumber (cs : List Char) : Except Fault (Reading Json) :=
  let (negative, body) := match cs with
    | '-' :: body => (true, body)
    | body => (false, body)
  let (whole, rest) := wholeDigits body
  if whole.isEmpty then fail .noValue cs
  else
    let (fraction, afterFraction) := (fractionDigits rest).getD ([], rest)
    let (exponent, afterExponent) := match exponentDigits afterFraction with
      | some ((negative, digits), after) =>
        (some (Binary64.signed negative (Number.digitsValue digits)), after)
      | none => (none, afterFraction)
    if fraction.isEmpty && exponent.isNone then
      if Number.digitLimit < whole.length then fail (.tooManyDigits whole.length) cs
      else .ok (.int (Binary64.signed negative (Number.digitsValue whole)), rest)
    else
      let digits := Number.digitsValue (whole ++ fraction)
      .ok (.float (.ofDecimal negative digits (exponent.getD 0 - fraction.length)), afterExponent)

/-- A word or a number. -/
def readScalar (cs : List Char) : Except Fault (Reading Json) :=
  let word (w : String) (v : Json) (otherwise : Except Fault (Reading Json)) : Except Fault (Reading Json) :=
    if w.toList.isPrefixOf cs then .ok (v, cs.drop w.length) else otherwise
  match cs with
  | 'n' :: _ => word "null" .null (fail .noValue cs)
  | 't' :: _ => word "true" (.bool true) (fail .noValue cs)
  | 'f' :: _ => word "false" (.bool false) (fail .noValue cs)
  | 'N' :: _ => word "NaN" (.float .nan) (fail .noValue cs)
  | 'I' :: _ => word "Infinity" (.float (.infinite false)) (fail .noValue cs)
  | '-' :: _ => word "-Infinity" (.float (.infinite true)) (readNumber cs)
  | _ => readNumber cs

mutual

/-- A value.  `fuel` bounds the depth of the calls; the length of the text is enough. -/
def readValue : Nat → List Char → Except Fault (Reading Json)
  | 0, cs => fail .noValue cs
  | fuel + 1, cs =>
    match cs with
    | '"' :: rest => do
      let (s, rest) ← readText rest
      .ok (.str s, rest)
    | '[' :: rest =>
      match skipSpace rest with
      | ']' :: rest => .ok (.arr [], rest)
      | rest => do
        let (items, rest) ← readItems fuel rest
        .ok (.arr items, rest)
    | '\x7b' :: rest =>
      match skipSpace rest with
      | '\x7d' :: rest => .ok (.obj [], rest)
      | rest => do
        let (fields, rest) ← readFields fuel [] rest
        .ok (.obj fields, rest)
    | cs => readScalar cs

/-- The items of an array from an item on, up to the closing bracket. -/
def readItems : Nat → List Char → Except Fault (Reading (List Json))
  | 0, cs => fail .noValue cs
  | fuel + 1, cs => do
    let (item, rest) ← readValue fuel cs
    match skipSpace rest with
    | ']' :: rest => .ok ([item], rest)
    | ',' :: rest => do
      let (items, rest) ← readItems fuel (skipSpace rest)
      .ok (item :: items, rest)
    | rest => fail .noComma rest

/-- The fields of an object from a key on, up to the closing brace, added to those already
read. -/
def readFields : Nat → Fields → List Char → Except Fault (Reading Fields)
  | 0, _, cs => fail .noKey cs
  | fuel + 1, read, cs =>
    match cs with
    | '"' :: rest => do
      let (key, rest) ← readText rest
      match skipSpace rest with
      | ':' :: rest => do
        let (value, rest) ← readValue fuel (skipSpace rest)
        let read := setField key value read
        match skipSpace rest with
        | '\x7d' :: rest => .ok (read, rest)
        | ',' :: rest => readFields fuel read (skipSpace rest)
        | rest => fail .noComma rest
      | rest => fail .noColon rest
    | _ => fail .noKey cs

end

/-- The value of a whole document. -/
def readDocument (cs : List Char) : Except Fault Json := do
  if cs.head? = some '\ufeff' then fail .byteOrderMark cs
  else
    let (value, rest) ← readValue (cs.length + 1) (skipSpace cs)
    match skipSpace rest with
    | [] => .ok value
    | rest => fail .extraData rest

/-- The place of a fault in its document. -/
def locate (cs : List Char) (fault : Fault) : SyntaxError :=
  let offset := cs.length - fault.left
  let before := cs.take offset
  { problem := fault.problem
    line := before.count '\n' + 1
    column := (before.reverse.takeWhile (· != '\n')).length + 1
    offset }

end Reader

/-- The value of a document. -/
def read (cs : List Char) : Except SyntaxError Json :=
  match Reader.readDocument cs with
  | .ok v => .ok v
  | .error fault => .error (Reader.locate cs fault)

end LogAlert.Json
