import LogAlert.Failure
import LogAlert.Text.Base64
import LogAlert.Text.Blank
import LogAlert.Text.Charset
import LogAlert.Text.Search

/-!
# Encoded words

A header line is ASCII.  Other characters are written in encoded words, each of which names its
character set and its encoding: digits of base 64, or the characters themselves with escapes.
A line reads as its plain parts and the texts of its encoded words; blanks between two encoded
words do not count, and neighbours of which only one is encoded are kept apart by a blank.

## Main definitions

* `EncodedWord.at?` : the encoded word at the front of a text.
* `EncodedWord.pieces` : the encoded words and the plain parts of a text.
* `EncodedWord.readAll` : the text that a header line stands for.
-/

namespace LogAlert

/-- An encoded word as it is written.  The name of its character set is in lower case. -/
structure EncodedWord where
  charset : List Char
  inBase64 : Bool
  content : List Char
  deriving DecidableEq, Repr, Inhabited

namespace EncodedWord

/-! ### Finding encoded words -/

/-- The text before the first question mark that an equals sign follows, and the text after
both. -/
def untilClose? : List Char → Option (List Char × List Char)
  | '?' :: '=' :: rest => some ([], rest)
  | c :: cs => (untilClose? cs).map fun (content, rest) => (c :: content, rest)
  | [] => none

/-- Whether the letter of an encoding stands for base 64. -/
def encoding? (c : Char) : Option Bool :=
  if c == 'b' || c == 'B' then some true
  else if c == 'q' || c == 'Q' then some false
  else none

/-- The encoded word at the front of a text, and what follows it. -/
def at? : List Char → Option (EncodedWord × List Char)
  | '=' :: '?' :: cs =>
    match cs.dropWhile (· != '?') with
    | '?' :: letter :: '?' :: rest => do
      let inBase64 ← encoding? letter
      let (content, rest) ← untilClose? rest
      some (⟨(cs.takeWhile (· != '?')).map Char.toLower, inBase64, content⟩, rest)
    | _ => none
  | _ => none

/-- A part of a header line. -/
inductive Piece where
  | plain (text : List Char)
  | word (w : EncodedWord)
  deriving DecidableEq, Repr, Inhabited

/-- A character in front of pieces. -/
def Piece.prepend (c : Char) : List Piece → List Piece
  | .plain text :: ps => .plain (c :: text) :: ps
  | ps => .plain [c] :: ps

/-- The encoded words and the plain parts of a text. -/
def pieces : List Char → List Piece
  | [] => []
  | c :: cs =>
    match at? (c :: cs) with
    | some (w, rest) => .word w :: pieces (cs.drop (cs.length - rest.length))
    | none => Piece.prepend c (pieces cs)
termination_by cs => cs.length
decreasing_by all_goals (simp only [List.length_drop, List.length_cons]; omega)

/-- Whether a piece is an encoded word. -/
def Piece.isWord : Piece → Bool
  | .word _ => true
  | .plain _ => false

/-- Whether a piece is written with blanks alone. -/
def Piece.isBlank : Piece → Bool
  | .word w => !w.content.isEmpty && w.content.all Text.isBlank
  | .plain text => !text.isEmpty && text.all Text.isBlank

/-- Pieces without blank ones between two encoded words.  `afterWord` tells whether an encoded
word stands in front of them. -/
def dropGaps (afterWord : Bool) : List Piece → List Piece
  | [] => []
  | p :: ps =>
    let rest := dropGaps p.isWord ps
    if afterWord && p.isBlank && (ps.head?.map Piece.isWord).getD false then rest else p :: rest

/-- Pieces without the blanks at their front. -/
def trimFront : List Piece → List Piece
  | .plain text :: ps =>
    let text := text.dropWhile Text.isBlank
    if text.isEmpty then ps else .plain text :: ps
  | ps => ps

/-! ### Reading encoded words -/

/-- The octets of a text with an underscore for each blank and escapes for other octets. -/
def unescape : List Char → List UInt8
  | '=' :: a :: b :: cs =>
    match Json.Reader.hexValue? a, Json.Reader.hexValue? b with
    | some m, some n => UInt8.ofNat (m * 16 + n) :: unescape cs
    | _, _ => 61 :: unescape (a :: b :: cs)
  | c :: cs => UInt8.ofNat (if c == '_' then 32 else c.toNat) :: unescape cs
  | [] => []

/-- The octets of an encoded word.  Missing equals signs are added. -/
def octets (w : EncodedWord) : Except Failure (List UInt8) :=
  if w.inBase64 then
    let excess := w.content.length % 4
    let pads := if excess == 0 then 0 else 4 - excess
    match Text.Base64.decode? (w.content ++ List.replicate pads '=') with
    | some bs => .ok bs
    | none => .error (.of (.other "HeaderParseError") "Base64 decoding error")
  else .ok (unescape w.content)

/-- Octets, and the name of their character set if they stand in encoded words. -/
structure Run where
  charset : Option (List Char)
  octets : List UInt8
  deriving Repr, Inhabited

/-- A piece as octets. -/
def Piece.run : Piece → Except Failure Run
  | .plain text => .ok ⟨none, Text.Utf8.encode text⟩
  | .word w => do
    let bs ← w.octets
    .ok ⟨some w.charset, bs⟩

/-- Neighbours in one character set as one. -/
def joinRuns : List Run → List Run
  | [] => []
  | r :: rs =>
    match joinRuns rs with
    | [] => [r]
    | s :: ss =>
      if r.charset == s.charset then ⟨r.charset, r.octets ++ s.octets⟩ :: ss else r :: s :: ss

/-- The name of the character set of plain text. -/
def plainCharset : List Char := "us-ascii".toList

/-- The numbers of the Latin alphabets, and the parts of ISO 8859 that define them. -/
def latinParts : List (String × String) :=
  [("1", "1"), ("2", "2"), ("3", "3"), ("4", "4"), ("5", "9"), ("6", "10"), ("7", "13"),
    ("8", "14"), ("9", "15"), ("10", "16")]

/-- The usual name of a character set that is named by the number of a Latin alphabet, or else
its own name. -/
def usualName (name : List Char) : List Char :=
  let isMark (c : Char) : Bool := c == '-' || c == '_'
  if name == "ascii".toList then plainCharset
  else if "latin".toList.isPrefixOf name && (name[5]?.map isMark).getD false then
    match latinParts.find? (·.1.toList == name.drop 6) with
    | some (_, part) => "iso-8859-".toList ++ part.toList
    | none => name
  else name

/-- A text with the name of the character set that it was written in. -/
structure Chunk where
  charset : List Char
  text : List Char
  deriving Repr, Inhabited

/-- Octets as text. -/
def Run.chunk (r : Run) : Except Failure Chunk :=
  let name := usualName (r.charset.getD plainCharset)
  match Text.Charset.named? (if name.isEmpty then plainCharset else name) with
  | none =>
    .error (.of (.other "LookupError") ("unknown encoding: " ++ String.ofList name))
  | some charset =>
    match charset.decode? r.octets with
    | some text => .ok ⟨name, text⟩
    | none =>
      .error (.of (.other "UnicodeDecodeError") (String.ofList name ++ ": invalid octets"))

/-- Neighbours in one character set as one, with a blank between them. -/
def joinChunks : List Chunk → List Chunk
  | [] => []
  | c :: cs =>
    match joinChunks cs with
    | [] => [c]
    | d :: ds =>
      if c.charset == d.charset then ⟨c.charset, c.text ++ ' ' :: d.text⟩ :: ds else c :: d :: ds

/-- Whether a character sets words apart. -/
def separates (c : Char) : Bool :=
  Text.isBlank c || c == '(' || c == ')' || c == '\\'

/-- Whether two neighbours, one of them plain and the other not, need a blank between them:
unless the plain one sets itself apart. -/
def needsBlank (a b : Chunk) : Bool :=
  let aPlain := a.charset == plainCharset
  let bPlain := b.charset == plainCharset
  (aPlain && !bPlain && !(a.text.getLast?.map separates).getD false) ||
    (!aPlain && bPlain && !(b.text.head?.map separates).getD false)

/-- The texts one after the other, with the blanks that they need between them. -/
def assemble : List Chunk → List Char
  | [] => []
  | [c] => c.text
  | c :: d :: cs => c.text ++ (if needsBlank c d then [' '] else []) ++ assemble (d :: cs)

/-- The text that a header line stands for. -/
def readAll (line : List Char) : Except Failure (List Char) := do
  let ps := pieces line
  if ps.any Piece.isWord then
    let runs ← (dropGaps false (trimFront ps)).mapM Piece.run
    let chunks ← (joinRuns runs).mapM Run.chunk
    .ok (assemble (joinChunks chunks))
  else .ok line

end EncodedWord

end LogAlert
