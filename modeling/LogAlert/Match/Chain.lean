import LogAlert.Match.Answer
import LogAlert.Slice

/-!
# Chains

Tokens that narrow down a list of records one after the other.

## Main definitions

* `Chain.select` : the records that answer all tokens.
* `Chain.describe` : a chain in words.
* `Chain.cut` : the part of a chain up to a position and the part from it on.
-/

namespace LogAlert

/-- Tokens that are asked in order. -/
abbrev Chain := List Token

namespace Chain

/-- The records that answer all tokens, up to a number of them if a limit is given.  At least
one record is looked for, whatever the limit. -/
def select (chain : Chain) : Option Int → List Record → Except Failure (List Record)
  | _, [] => .ok []
  | limit, r :: rs => do
    if ← Token.holdAll chain r then
      match limit with
      | none => (select chain none rs).map (r :: ·)
      | some n => if n ≤ 1 then .ok [r] else (select chain (some (n - 1)) rs).map (r :: ·)
    else select chain limit rs

/-- A chain in words. -/
def describe (chain : Chain) : String :=
  "FilterChain(" ++ toString chain.length ++ " predicates)"

/-- The part of a chain before a position, and the part from it on. -/
def cut (chain : Chain) (position : Int) : Chain × Chain :=
  (Slice.upTo position chain, Slice.after position chain)

end Chain

end LogAlert
