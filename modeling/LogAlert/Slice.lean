/-!
# Slices

Parts of a list up to or from a position.  A negative position counts from the end, and
positions outside the list are moved to its ends.

## Main definitions

* `Slice.upTo`, `Slice.after` : the items before a position, and those from it on.
-/

namespace LogAlert.Slice

variable {α : Type}

/-- How many items of a list of the given length lie before a position. -/
def place (length : Nat) (position : Int) : Nat :=
  if position < 0 then (position + length).toNat else min position.toNat length

/-- The items before a position. -/
def upTo (position : Int) (xs : List α) : List α :=
  xs.take (place xs.length position)

/-- The items from a position on. -/
def after (position : Int) (xs : List α) : List α :=
  xs.drop (place xs.length position)

end LogAlert.Slice
