/-!
# Tables

Finite maps that keep their entries in the order in which the keys first came in.

## Main definitions

* `Table` : the tables, as lists of entries.
* `Table.get?`, `Table.put`, `Table.erase` : reading, writing and removing an entry.
-/

namespace LogAlert

/-- Entries of a key and a value, in order. -/
abbrev Table (κ α : Type) := List (κ × α)

namespace Table

variable {κ α : Type} [BEq κ]

/-- The value under a key. -/
def get? (t : Table κ α) (key : κ) : Option α :=
  (t.find? (·.1 == key)).map (·.2)

/-- Whether there is an entry for a key. -/
def has (t : Table κ α) (key : κ) : Bool :=
  t.any (·.1 == key)

/-- Writes a value: in place if the key is there, and otherwise at the end. -/
def put (key : κ) (value : α) : Table κ α → Table κ α
  | [] => [(key, value)]
  | e :: t => if e.1 == key then (key, value) :: t else e :: put key value t

/-- Removes the entry of a key. -/
def erase (key : κ) (t : Table κ α) : Table κ α :=
  t.filter (·.1 != key)

end Table

/-- The values of a table, in order. -/
def Table.values {κ α : Type} (t : Table κ α) : List α :=
  t.map (·.2)

/-- The keys of a table, in order. -/
def Table.keys {κ α : Type} (t : Table κ α) : List κ :=
  t.map (·.1)

end LogAlert
