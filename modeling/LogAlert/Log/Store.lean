import LogAlert.Log.Request
import LogAlert.Match.Chain

/-!
# Log stores

An append-only list of records whose ids ascend.

## Main definitions

* `LogStore` : the stores.
* `LogStore.add`, `LogStore.append` : storing a record, and storing one under the next id.
* `LogStore.search`, `LogStore.firstAfter`, `LogStore.lastAfter`, `LogStore.countSince`,
  `LogStore.maxId` : the reads.
* `LogStore.answer` : the answer to any request.
-/

namespace LogAlert

/-- Stored records in ascending order of ids, and the least id that the next one may have. -/
structure LogStore where
  records : List Record
  nextId : Int
  deriving Repr, Inhabited

namespace LogStore

/-- The store without records. -/
def empty : LogStore :=
  ⟨[], 1⟩

/-- Stores a record, whose id must be greater than all stored ones. -/
def add (s : LogStore) (r : Record) : Except Failure LogStore :=
  if r.id < s.nextId then
    .error (.value ("log id " ++ toString r.id ++ " is not greater than " ++
      toString (s.nextId - 1)))
  else .ok ⟨s.records ++ [r], r.id + 1⟩

/-- The record with the next id; a time without an offset is in UTC. -/
def newRecord (s : LogStore) (source message level : String) (timestamp : Moment)
    (metadata : Json.Fields) : Record :=
  { id := s.nextId
    timestamp := timestamp.assumeUtc
    level := Level.ofText level.toList
    message
    source
    metadata }

/-- Stores a new record under the next id. -/
def append (s : LogStore) (source message level : String) (timestamp : Moment)
    (metadata : Json.Fields) : LogStore × Record :=
  let r := s.newRecord source message level timestamp metadata
  (⟨s.records ++ [r], s.nextId + 1⟩, r)

/-- Stores records one after the other. -/
def addAll (s : LogStore) : List Record → Except Failure LogStore
  | [] => .ok s
  | r :: rs => do
    let s ← s.add r
    s.addAll rs

/-- The records that answer all tokens, in ascending order of ids. -/
def search (s : LogStore) (tokens : List Token) (limit : Option Int) :
    Except Failure (List Record) :=
  Chain.select tokens limit s.records

/-- The first of some records with an id above a bound that answers all tokens. -/
def firstAbove (floor : Int) (tokens : List Token) :
    List Record → Except Failure (Option Record)
  | [] => .ok none
  | r :: rs => do
    let found ← if floor < r.id then Token.holdAll tokens r else .ok false
    if found then .ok (some r) else firstAbove floor tokens rs

/-- The earliest record after an id that answers all tokens. -/
def firstAfter (s : LogStore) (after : Option Int) (tokens : List Token) :
    Except Failure (Option Record) :=
  firstAbove (after.getD 0) tokens s.records

/-- The first of some records that answers all tokens, up to the first with an id not above a
bound. -/
def firstUntil (floor : Int) (tokens : List Token) :
    List Record → Except Failure (Option Record)
  | [] => .ok none
  | r :: rs =>
    if r.id ≤ floor then .ok none
    else do
      if ← Token.holdAll tokens r then .ok (some r) else firstUntil floor tokens rs

/-- The latest record after an id that answers all tokens. -/
def lastAfter (s : LogStore) (after : Option Int) (tokens : List Token) :
    Except Failure (Option Record) :=
  firstUntil (after.getD 0) tokens s.records.reverse

/-- How many of some records are not before a time and answer all tokens. -/
def countFrom (cutoff : Moment) (tokens : List Token) : List Record → Except Failure Nat
  | [] => .ok 0
  | r :: rs => do
    let recent ← Match.decided (cutoff.atMost? r.timestamp)
    let counts ← if recent then Token.holdAll tokens r else .ok false
    let n ← countFrom cutoff tokens rs
    .ok (if counts then n + 1 else n)

/-- How many records from a time on answer all tokens. -/
def countSince (s : LogStore) (cutoff : Moment) (tokens : List Token) : Except Failure Nat :=
  countFrom cutoff tokens s.records

/-- The id of the last record. -/
def maxId (s : LogStore) : Option Int :=
  s.records.getLast?.map (·.id)

/-- The answer to a request. -/
def answer (s : LogStore) (r : LogRequest) : Except Failure r.Answer :=
  match r with
  | .firstAfter after tokens => s.firstAfter after tokens
  | .lastAfter after tokens => s.lastAfter after tokens
  | .countSince cutoff tokens => s.countSince cutoff tokens
  | .maxId => .ok s.maxId

end LogStore

end LogAlert
