import LogAlert.Query.Instant
import LogAlert.Query.Lexeme
import LogAlert.Query.Token

/-!
# Reading queries

Each lexeme of a query becomes a token or is dropped: a pair becomes a filter on its field, a
quoted text a phrase, and a bare word a term.  Pairs with the keys of the pseudo-fields for
level, time and source are filters on those.

## Main definitions

* `Query.unquote` : a value without quotation marks and escapes.
* `Query.classify` : the token of a lexeme.
* `Query.parse`, `Query.parseGiven` : the tokens of a query.
-/

namespace LogAlert.Query

/-- The severities that a query may name, with the spellings of each. -/
def levelNames : List (String × String) :=
  [("debug", "debug"), ("dbg", "debug"), ("info", "info"), ("inf", "info"),
    ("warning", "warning"), ("warn", "warning"), ("wrn", "warning"),
    ("error", "error"), ("err", "error")]

/-- The severity with the given spelling. -/
def levelOf? (name : String) : Option String :=
  (levelNames.find? (·.1 == name)).map (·.2)

/-- Every quotation mark without the backslash in front of it. -/
def unescape : List Char → List Char
  | '\\' :: '"' :: cs => '"' :: unescape cs
  | c :: cs => c :: unescape cs
  | [] => []

/-- A value without the blanks and then the quotation marks around it, escapes resolved. -/
def unquote (cs : List Char) : List Char :=
  unescape (Text.stripBy (· == '"') (Text.strip cs))

/-- Whether the text is a key with a value. -/
def isPair (cs : List Char) : Bool :=
  [Lexeme.Body.quotedPair, .comparedPair, .barePair].any (·.fits cs)

/-- The texts before and after the first colon. -/
def splitPair (cs : List Char) : List Char × List Char :=
  (cs.takeWhile (· != ':'), (cs.dropWhile (· != ':')).drop 1)

/-- The filter of a key with a value. -/
def classifyPair (pair : List Char) (now : Moment) : Except Failure (Option Filter) :=
  let (key, raw) := splitPair pair
  let (operator, comparand) := Operator.extract raw
  let field := String.ofList (Text.lower key)
  let value := unquote comparand
  if field == "level" then
    .ok ((levelOf? (String.ofList (Text.lower value))).map .level)
  else if field == "timestamp" then do
    let instant ← Instant.read value now
    .ok (instant.map (.timestamp operator))
  else if field == "source" then
    .ok (some (.source (String.ofList (unquote raw))))
  else
    .ok (some (.metadata (String.ofList key) operator (String.ofList value)))

/-- The filter of a quoted text, unless it is empty. -/
def classifyPhrase (cs : List Char) : Option Filter :=
  let text := unquote cs
  if text.isEmpty then none else some (.phrase (String.ofList text))

/-- Whether the text starts and ends with different quotation marks. -/
def isQuoted (cs : List Char) : Bool :=
  2 ≤ cs.length && cs.head? = some '"' && cs.getLast? = some '"'

/-- The filter of a lexeme, its minus sign aside. -/
def classifyBody (cs : List Char) (now : Moment) : Except Failure (Option Filter) :=
  if isPair cs then classifyPair cs now
  else if isQuoted cs then .ok (classifyPhrase cs)
  else if cs.isEmpty then .ok none
  else .ok (some (.term (String.ofList cs)))

/-- The token of a lexeme; none for one that is dropped. -/
def classify (lexeme : List Char) (now : Moment) : Except Failure (Option Token) := do
  let negated := lexeme.head? = some '-'
  let filter ← classifyBody (if negated then lexeme.drop 1 else lexeme) now
  .ok (filter.map (⟨negated, ·⟩))

/-- The tokens of lexemes, without those that are dropped. -/
def classifyAll (now : Moment) : List (List Char) → Except Failure (List Token)
  | [] => .ok []
  | lexeme :: lexemes => do
    let token ← classify lexeme now
    let tokens ← classifyAll now lexemes
    .ok (token.toList ++ tokens)

/-- The tokens of a query, in order. -/
def parse (query : List Char) (now : Moment) : Except Failure (List Token) :=
  classifyAll now (Lexeme.tokenize query)

/-- The tokens of a query that may be missing; a missing query has none. -/
def parseGiven (query : Option (List Char)) (now : Moment) : Except Failure (List Token) :=
  match query with
  | some query => parse query now
  | none => .ok []

end LogAlert.Query
