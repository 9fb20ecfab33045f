import LogAlert.Text.Blank
import LogAlert.Text.Class

/-!
# Lexemes

A query is cut into lexemes from left to right.  At each place the first of ten shapes that
fits is taken, every part of it as long as possible; a character where none fits is passed
over.  The shapes are five bodies, each first with a minus sign in front and then without.

## Main definitions

* `Lexeme.Body`, `Lexeme.Shape` : the shapes.
* `Lexeme.Shape.length?` : how much of a text a shape takes.
* `Lexeme.scan` : the lexemes of a text.
-/

namespace LogAlert

namespace Lexeme

/-- The characters of keys and bare values: those of words, the point and the minus sign. -/
def isBare (c : Char) : Bool :=
  Text.isWord c || c == '.' || c == '-'

/-- The length of the longest run of bare characters at the front of a text, if there is one. -/
def runLength? (cs : List Char) : Option Nat :=
  let n := (cs.takeWhile isBare).length
  if n == 0 then none else some n

/-- The length of a quoted text at the front of a text, with both quotation marks. -/
def quotedLength? : List Char → Option Nat
  | '"' :: cs =>
    let n := (cs.takeWhile (· != '"')).length
    if n < cs.length then some (n + 2) else none
  | _ => none

/-- The length of a comparison sign at the front of a text. -/
def signLength? : List Char → Option Nat
  | c :: d :: _ => if c == '>' || c == '<' then some (if d == '=' then 2 else 1) else none
  | [c] => if c == '>' || c == '<' then some 1 else none
  | [] => none

/-- The length of two parts one after the other. -/
def sequence (first second : List Char → Option Nat) (cs : List Char) : Option Nat := do
  let n ← first cs
  let m ← second (cs.drop n)
  some (n + m)

/-- The length of a particular character. -/
def oneLength? (c : Char) : List Char → Option Nat
  | d :: _ => if c == d then some 1 else none
  | [] => none

/-- The length of a key with its colon. -/
def keyLength? : List Char → Option Nat :=
  sequence runLength? (oneLength? ':')

/-- What a lexeme consists of, a leading minus sign apart. -/
inductive Body where
  /-- A key and a quoted value. -/
  | quotedPair
  /-- A quoted text. -/
  | quoted
  /-- A key, a comparison sign and a bare value. -/
  | comparedPair
  /-- A key and a bare value. -/
  | barePair
  /-- A bare word. -/
  | bare
  deriving DecidableEq, Repr, Inhabited

/-- The length of a body at the front of a text. -/
def Body.length? : Body → List Char → Option Nat
  | .quotedPair => sequence keyLength? quotedLength?
  | .quoted => quotedLength?
  | .comparedPair => sequence keyLength? (sequence signLength? runLength?)
  | .barePair => sequence keyLength? runLength?
  | .bare => runLength?

/-- A body with or without a minus sign in front. -/
structure Shape where
  negated : Bool
  body : Body
  deriving DecidableEq, Repr, Inhabited

/-- The length of a lexeme of the given shape at the front of a text. -/
def Shape.length? (s : Shape) : List Char → Option Nat :=
  if s.negated then sequence (oneLength? '-') s.body.length? else s.body.length?

/-- The shapes in the order in which they are tried. -/
def shapes : List Shape :=
  [.quotedPair, .quoted, .comparedPair, .barePair, .bare].flatMap fun body =>
    [⟨true, body⟩, ⟨false, body⟩]

/-- The first shape that fits at the front of a text, with its length. -/
def first? (cs : List Char) : Option (Shape × Nat) :=
  shapes.findSome? fun s => (s.length? cs).map (s, ·)

end Lexeme

/-- A part of a query with the shape that it fits. -/
structure Lexeme where
  shape : Lexeme.Shape
  text : List Char
  deriving DecidableEq, Repr, Inhabited

namespace Lexeme

/-- The lexemes of a text. -/
def scan : List Char → List Lexeme
  | [] => []
  | c :: cs =>
    match first? (c :: cs) with
    | some (shape, n) => ⟨shape, (c :: cs).take n⟩ :: scan (cs.drop (n - 1))
    | none => scan cs
termination_by cs => cs.length
decreasing_by all_goals (simp only [List.length_drop, List.length_cons]; omega)

/-- The texts of the lexemes of a query. -/
def tokenize (query : List Char) : List (List Char) :=
  (scan (Text.strip query)).map (·.text)

/-- Whether a whole text, one line feed at its end aside, is of the given body. -/
def Body.fits (b : Body) (cs : List Char) : Bool :=
  match b.length? cs with
  | some n => cs.drop n == [] || cs.drop n == ['\n']
  | none => false

end Lexeme

end LogAlert
