import LogAlert.Text.LowerTable
import LogAlert.Text.CasedTable
import LogAlert.Text.IgnorableTable
import LogAlert.Text.Class

/-!
# Lower case

The lower-case form of a text, and the equality of letters up to case.

## Main definitions

* `lowerChar` : the one-to-one lower-case map.
* `lower` : the full lower-case form.  One letter becomes two characters, and a capital sigma
  that ends a word takes its final form.
* `sameLetter` : equality up to case, character by character.
-/

namespace LogAlert.Text

/-- The run's image of `n`, if `n` is in the run. -/
def CaseRun.image? (r : CaseRun) (n : Nat) : Option Nat :=
  if r.first ≤ n && n ≤ r.last && (n - r.first) % r.step == 0 then some (n + r.shift).toNat
  else none

/-- The one-to-one lower-case form of a character. -/
def lowerChar (c : Char) : Char :=
  let n := c.toNat
  if n < 128 then c.toLower
  else if n == 0x130 then 'i'
  else match lowerRuns.findSome? (·.image? n) with
    | some m => Char.ofNat m
    | none => c

/-- Whether the first character that is not passed over is a cased one. -/
def startsCased : List Char → Bool
  | [] => false
  | c :: cs =>
    if inBounds ignorableBounds c.toNat then startsCased cs else inBounds casedBounds c.toNat

/-- The lower-case form of a text that follows the characters `before`, nearest first. -/
def lowerAfter (before : List Char) : List Char → List Char
  | [] => []
  | c :: cs =>
    let image :=
      if c.toNat == 0x130 then ['i', '\u0307']
      else if c.toNat == 0x3a3 then
        if startsCased before && !startsCased cs then ['\u03c2'] else ['\u03c3']
      else [lowerChar c]
    image ++ lowerAfter (c :: before) cs

/-- The lower-case form of a text. -/
def lower (cs : List Char) : List Char :=
  lowerAfter [] cs

/-- The letters that count as equal to the lower-case letter `n`, itself apart. -/
def variantsOf (n : Nat) : List Nat :=
  ((letterVariants.find? (·.1 == n)).map (·.2)).getD []

/-- Whether `c` is the letter `p` when case is ignored. -/
def sameLetter (p c : Char) : Bool :=
  let base := lowerChar p
  let other := lowerChar c
  other == base || (variantsOf base.toNat).contains other.toNat

end LogAlert.Text
