import LogAlert.Alert.Codec
import LogAlert.Table

/-!
# Key-value databases

The data of a key-value server: texts, sets of texts, lists of texts, and tables of texts,
under keys.

## Main definitions

* `Stored`, `Database` : the data.
* `Read`, `Write` : the commands that read and that write.
* `Database.read`, `Database.write`, `Database.writeAll` : their effects.
-/

namespace LogAlert.KeyValue

/-- What is stored under a key. -/
inductive Stored where
  | text (s : String)
  | set (members : List String)
  | list (items : List String)
  | hash (entries : Table String String)
  deriving Repr, Inhabited, BEq

/-- The data by key. -/
abbrev Database := Table String Stored

/-- A command that reads. -/
inductive Read where
  | ping
  | get (key : String)
  | has (key : String)
  | entries (key : String)
  | members (key : String)
  | range (key : String) (start stop : Int)
  deriving Repr, Inhabited

/-- What a reading command is answered with. -/
@[reducible] def Read.Answer : Read → Type
  | ping | has _ => Bool
  | get _ => Option String
  | entries _ => Table String String
  | members _ | range .. => List String

/-- The name of a command on the wire. -/
def Read.name : Read → String
  | ping => "ping"
  | get _ => "get"
  | has _ => "exists"
  | entries _ => "hgetall"
  | members _ => "smembers"
  | range .. => "lrange"

/-- A command that writes.  It is answered with a number: how much it changed, or the new
value. -/
inductive Write where
  | set (key value : String)
  | putEntries (key : String) (entries : Table String String)
  | insert (key member : String)
  | remove (key member : String)
  | delete (keys : List String)
  | increment (key : String)
  | push (key item : String)
  deriving Repr, Inhabited

/-- The name of a command on the wire. -/
def Write.name : Write → String
  | set .. => "set"
  | putEntries .. => "hset"
  | insert .. => "sadd"
  | remove .. => "srem"
  | delete _ => "delete"
  | increment _ => "incr"
  | push .. => "rpush"

/-- The failure of a command that does not fit what is stored under its key. -/
def misfit : Failure :=
  ⟨.client .refused, [.str "WRONGTYPE Operation against a key holding the wrong kind of value"]⟩

/-- The part of a list from one position to another, both included.  Negative positions count
from the end. -/
def rangeOf (start stop : Int) (items : List String) : List String :=
  let length : Int := items.length
  let start := max 0 (if start < 0 then start + length else start)
  let stop := if stop < 0 then stop + length else stop
  (items.drop start.toNat).take (stop - start + 1).toNat

namespace Database

/-- The text under a key. -/
def text (db : Database) (key : String) : Except Failure (Option String) :=
  match db.get? key with
  | none => .ok none
  | some (.text s) => .ok (some s)
  | _ => .error misfit

/-- The members of the set under a key. -/
def members (db : Database) (key : String) : Except Failure (List String) :=
  match db.get? key with
  | none => .ok []
  | some (.set ms) => .ok ms
  | _ => .error misfit

/-- The items of the list under a key. -/
def items (db : Database) (key : String) : Except Failure (List String) :=
  match db.get? key with
  | none => .ok []
  | some (.list xs) => .ok xs
  | _ => .error misfit

/-- The entries of the table under a key. -/
def entries (db : Database) (key : String) : Except Failure (Table String String) :=
  match db.get? key with
  | none => .ok []
  | some (.hash es) => .ok es
  | _ => .error misfit

/-- The answer to a reading command. -/
def read (db : Database) (r : Read) : Except Failure r.Answer :=
  match r with
  | .ping => .ok true
  | .get key => db.text key
  | .has key => .ok (db.has key)
  | .entries key => db.entries key
  | .members key => db.members key
  | .range key start stop => (db.items key).map (rangeOf start stop)

/-- The number that a text counts up from. -/
def counter (s : Option String) : Except Failure Int :=
  match s with
  | none => .ok 0
  | some s => Cursor.readStoredInt s

/-- The answer to a writing command, and the data after it. -/
def write (db : Database) (w : Write) : Except Failure (Int × Database) := do
  match w with
  | .set key value => .ok (1, db.put key (.text value))
  | .putEntries key new =>
    let old ← db.entries key
    let merged := new.foldl (fun t (name, value) => t.put name value) old
    .ok ((merged.length : Int) - old.length, db.put key (.hash merged))
  | .insert key member =>
    let ms ← db.members key
    if ms.contains member then .ok (0, db) else .ok (1, db.put key (.set (ms ++ [member])))
  | .remove key member =>
    let ms ← db.members key
    if ms.contains member then
      let left := ms.filter (· != member)
      .ok (1, if left.isEmpty then db.erase key else db.put key (.set left))
    else .ok (0, db)
  | .delete keys =>
    let present := keys.eraseDups.filter fun key => db.has key
    .ok (present.length, present.foldl (fun db key => Table.erase key db) db)
  | .increment key =>
    let n := (← counter (← db.text key)) + 1
    .ok (n, db.put key (.text (toString n)))
  | .push key item =>
    let xs ← db.items key
    .ok (xs.length + 1, db.put key (.list (xs ++ [item])))

/-- The answers to writing commands one after the other, and the data after them. -/
def writeAll (db : Database) : List Write → Except Failure (List Int × Database)
  | [] => .ok ([], db)
  | w :: ws => do
    let (n, db) ← db.write w
    let (ns, db) ← db.writeAll ws
    .ok (n :: ns, db)

end Database

end LogAlert.KeyValue
