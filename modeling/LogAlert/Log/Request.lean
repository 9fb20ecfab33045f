import LogAlert.Log.Record
import LogAlert.Query.Token

/-!
# Requests to a log store

What the administration and the evaluation of alerts ask a log store.  They only read.

## Main definitions

* `LogRequest`, `LogRequest.Answer` : the requests and their answers.
-/

namespace LogAlert

/-- A request to a log store. -/
inductive LogRequest where
  | firstAfter (after : Option Int) (tokens : List Token)
  | lastAfter (after : Option Int) (tokens : List Token)
  | countSince (cutoff : Moment) (tokens : List Token)
  | maxId
  deriving Repr, Inhabited

namespace LogRequest

/-- What a request is answered with. -/
@[reducible] def Answer : LogRequest → Type
  | firstAfter .. | lastAfter .. => Option Record
  | countSince .. => Nat
  | maxId => Option Int

/-- The name of a request. -/
def name : LogRequest → String
  | firstAfter .. => "first_match_after"
  | lastAfter .. => "last_match_after"
  | countSince .. => "count_matches_since"
  | maxId => "max_id"

end LogRequest

end LogAlert
