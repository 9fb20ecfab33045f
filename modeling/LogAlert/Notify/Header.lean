import LogAlert.Notify.EncodedWord
import LogAlert.Text.Breaks

/-!
# Header lines

The text of a header line of a mail, after it was written to the wire and read from there.
Line breaks within the text fold the line.  Every further line on the wire must start with a
blank; otherwise it would be a header line of its own, and the mail is not written.

## Main definitions

* `Header.fold` : the lines on the wire.
* `Header.check` : the lines must make up one header line.
* `Header.write` : whether a text can be written as a header line, or why not.
* `Header.read` : the text that is read from its header line.
-/

namespace LogAlert.Header

/-- Whether all characters are ASCII. -/
def isAscii (cs : List Char) : Bool :=
  cs.all fun c => c.toNat < 128

/-- Blanks that a further line may start with. -/
def isFold (c : Char) : Bool :=
  c == ' ' || c == '\t'

/-- A line without the space at its end, unless more blanks stand before it. -/
def dropLoneSpace (line : List Char) : List Char :=
  let before := line.dropLast
  if line.getLast? = some ' ' && !(before.getLast?.map isFold).getD false then before else line

/-- Lines with a further one: nothing is added for an empty line, and a blank line is added to
the last one. -/
def addLine (lines : List (List Char)) (line : List Char) : List (List Char) :=
  if line.isEmpty then lines
  else if line.all Text.isBlank then lines.dropLast ++ [lines.getLast?.getD [] ++ line]
  else lines ++ [line]

/-- The lines on the wire for a text of ASCII characters. -/
def fold (cs : List Char) : List (List Char) :=
  match Text.splitBreaks cs with
  | [] => [[]]
  | [line] => [line]
  | first :: more => (more.map dropLoneSpace).foldl addLine [dropLoneSpace first]

/-- Whether some of the lines, each after a line break, begins what looks like another header
line: a name without blanks, and a colon. -/
def embedsHeader : List (List Char) → Bool
  | [] => false
  | line :: lines =>
    let name := (Text.join ['\n'] (line :: lines)).takeWhile fun c => !isFold c
    (name.drop 1).contains ':' || embedsHeader lines

/-- The lines must make up one header line with the given name. -/
def check (name : String) (lines : List (List Char)) : Except Failure Unit :=
  let written := String.ofList (Text.join ['\n'] lines)
  let more := lines.drop 1
  if embedsHeader more then
    .error (.of (.other "HeaderParseError")
      ("header value appears to contain an embedded header: " ++ (Json.str written).inspect))
  else if more.all fun line => (line.head?.map isFold).getD false then .ok ()
  else
    .error (.of (.other "HeaderWriteError")
      ("folded header contains newline: " ++ (Json.str (name ++ ": " ++ written ++ "\n")).inspect))

/-- The lines as one, without the blanks at the front of the first. -/
def unfold (lines : List (List Char)) : List Char :=
  ((lines.head?.getD []).dropWhile isFold) ++ (lines.drop 1).flatten

/-- Whether a text can be written as the header line with the given name.  Beyond ASCII it is
written in encoded words, and these always can. -/
def write (name : String) (cs : List Char) : Except Failure Unit :=
  if isAscii cs then check name (fold cs) else .ok ()

/-- The text that is read from the header line of a text.  Beyond ASCII there is one encoded
word for each of its lines, and these are read as the lines with a space between them. -/
def read (cs : List Char) : Except Failure (List Char) :=
  if isAscii cs then EncodedWord.readAll (unfold (fold cs))
  else
    match Text.splitBreaks cs with
    | [] => .ok []
    | first :: more => .ok (Text.join [' '] (first :: more.map (·.dropWhile Text.isBlank)))

end LogAlert.Header
