import Mathlib.Logic.Relation
import LogAlert.KeyValue.AlertStore
import LogAlert.Proofs.Commands

/-!
# A key-value server with many clients

Any number of clients share the data of a server.  Each client is in the middle of an operation of
an alert store, and its next request may be served at any time.  The commands of one request are
applied together.  A commit is applied unless a key that the client watches was written since the
watch began; then it is a lost race.  Whatever is applied is kept in a journal.

## Main definitions

* `reply` : the answer to a request, and the data after it.
* `Applied`, `Entry` : commands that were applied together, and whose they were.
* `Session`, `Shared` : a client in the middle of an operation, and the server with its clients.
* `Shared.Step`, `Shared.Reachable` : how the clients proceed, and the states that come of it.
* `Shared.play` : the state after some moves, to be evaluated.

## Main results

* `Database.get?_of_writeAll` : commands leave the keys alone that they do not name.
* `reply_eq_respond` : with a single client the server is the one without planned failures.
* `Shared.Steps.leads` : the journal leads from the data before to the data after.
-/

namespace LogAlert.KeyValue

/-! ### Commands and keys -/

/-- The keys that a command names. -/
def Write.keys : Write → List String
  | .set key _ | .putEntries key _ | .insert key _ | .remove key _ | .increment key
  | .push key _ => [key]
  | .delete keys => keys

/-- The keys that commands name. -/
def keysOf (ws : List Write) : List String :=
  ws.flatMap Write.keys

namespace Database

variable {db db' : Database} {key : String}

/-- A command leaves the keys alone that it does not name. -/
theorem get?_of_write {w : Write} {n : Int} (h : db.write w = .ok (n, db'))
    (other : key ∉ w.keys) : db'.get? key = db.get? key := by
  have put {k : String} {x : Stored} (hk : key ∉ [k]) : (db.put k x).get? key = db.get? key :=
    Table.get?_put_of_ne _ _ fun heq => hk (List.mem_singleton.mpr heq.symm)
  cases w with
  | set k value =>
    cases h
    exact put other
  | putEntries k new =>
    obtain ⟨old, -, h⟩ := exists_of_bind_ok h
    cases h
    exact put other
  | insert k member =>
    obtain ⟨ms, -, h⟩ := exists_of_bind_ok h
    split at h
    · cases h
      rfl
    · cases h
      exact put other
  | remove k member =>
    obtain ⟨ms, -, h⟩ := exists_of_bind_ok h
    dsimp only at h
    split at h
    · cases h
      split
      · exact Table.get?_erase_of_ne _ fun heq => other (List.mem_singleton.mpr heq.symm)
      · exact put other
    · cases h
      rfl
  | delete keys =>
    obtain ⟨n', db'', hwrite, hget⟩ := db.get?_delete keys
    obtain ⟨-, rfl⟩ := Prod.mk.inj (Except.ok.inj (h.symm.trans hwrite))
    exact (hget key).trans (if_neg other)
  | increment k =>
    obtain ⟨text, -, h⟩ := exists_of_bind_ok h
    obtain ⟨n', -, h⟩ := exists_of_bind_ok h
    cases h
    exact put other
  | push k item =>
    obtain ⟨xs, -, h⟩ := exists_of_bind_ok h
    cases h
    exact put other

/-- **Commands leave the keys alone that they do not name.** -/
theorem get?_of_writeAll {ws : List Write} {counts : List Int}
    (h : db.writeAll ws = .ok (counts, db')) (other : key ∉ keysOf ws) :
    db'.get? key = db.get? key := by
  induction ws generalizing db counts with
  | nil =>
    cases h
    rfl
  | cons w ws ih =>
    obtain ⟨⟨n, db₁⟩, first, h⟩ := exists_of_bind_ok h
    obtain ⟨⟨ns, db₂⟩, rest, h⟩ := exists_of_bind_ok h
    cases h
    rw [keysOf, List.flatMap_cons, List.mem_append, not_or] at other
    rw [ih rest other.2, get?_of_write first other.1]

end Database

/-! ### Requests -/

namespace ClientRequest

/-- The commands that a request asks to apply, if it does. -/
def writes : ClientRequest → Option (List Write)
  | .write w => some [w]
  | .commit ws | .transact ws => some ws
  | .read _ | .watch _ | .begins _ => none

/-- The keys that a client watches after a request, having watched some before. -/
def watchedAfter (watched : List String) : ClientRequest → List String
  | .watch keys => keys
  | .commit _ => []
  | .read _ | .write _ | .transact _ | .begins _ => watched

/-- Whether a client has lost its watch after a request, by whether it had lost it before. -/
def lostAfter (lost : Bool) : ClientRequest → Bool
  | .watch _ | .commit _ => false
  | .read _ | .write _ | .transact _ | .begins _ => lost

end ClientRequest

/-- The failure of a commit when someone else was faster. -/
def lostRace : Failure :=
  ⟨.client .race, [.str "Watched variable changed."]⟩

/-- The answer to commands that are applied together, and the data after them. -/
def applyAll (db : Database) (ws : List Write) : Except Failure (List Int) × Database :=
  match db.writeAll ws with
  | .ok (counts, db') => (.ok counts, db')
  | .error e => (.error e, db)

/-- The answer to a request, and the data after it.  `lost` tells whether a key that the client
watches was written since the watch began. -/
def reply (db : Database) (lost : Bool) (q : ClientRequest) :
    Except Failure q.Answer × Database :=
  match q with
  | .read r => (db.read r, db)
  | .write w =>
    match db.write w with
    | .ok (n, db') => (.ok n, db')
    | .error e => (.error e, db)
  | .watch _ | .begins _ => (.ok (), db)
  | .commit ws => if lost then (.error lostRace, db) else applyAll db ws
  | .transact ws => applyAll db ws

/-- Unless a race is lost, a request is answered as by a server with a single client. -/
theorem reply_eq_respond (db : Database) (q : ClientRequest) :
    Simulation.Server.respond ⟨db, []⟩ q = ((reply db false q).1, ⟨(reply db false q).2, []⟩) := by
  have hall (ws : List Write) : Simulation.Server.apply ⟨db, []⟩ ws =
      ((applyAll db ws).1, ⟨(applyAll db ws).2, []⟩) := by
    rw [Simulation.Server.apply, applyAll]
    dsimp only
    cases db.writeAll ws <;> rfl
  cases q with
  | read | watch | begins => rfl
  | write w =>
    rw [Simulation.Server.respond, reply]
    dsimp only
    cases db.write w <;> rfl
  | commit ws | transact ws => exact hall ws

/-! ### Clients -/

/-- Commands that were applied together, with the data before and after them. -/
structure Applied where
  commands : List Write
  before : Database
  after : Database

/-- What a request has applied, if anything. -/
def appliedOf (db : Database) (lost : Bool) (q : ClientRequest) : List Applied :=
  match q.writes, (reply db lost q).1 with
  | some ws, .ok _ => [⟨ws, db, (reply db lost q).2⟩]
  | _, _ => []

theorem appliedOf_of_error {db : Database} {lost : Bool} {q : ClientRequest} {e : Failure}
    (h : (reply db lost q).1 = .error e) : appliedOf db lost q = [] := by
  rw [appliedOf, h]
  split <;> simp_all

theorem appliedOf_of_ok {db : Database} {lost : Bool} {q : ClientRequest} {ws : List Write}
    {answer : q.Answer} (hws : q.writes = some ws) (h : (reply db lost q).1 = .ok answer) :
    appliedOf db lost q = [⟨ws, db, (reply db lost q).2⟩] := by
  rw [appliedOf, hws, h]

theorem reply_write_ok {db db' : Database} {w : Write} {n : Int} (h : db.write w = .ok (n, db'))
    (lost : Bool) : reply db lost (.write w) = (.ok n, db') := by
  rw [reply, h]

theorem reply_write_error {db : Database} {w : Write} {e : Failure} (h : db.write w = .error e)
    (lost : Bool) : reply db lost (.write w) = (.error e, db) := by
  rw [reply, h]

theorem applyAll_ok {db db' : Database} {ws : List Write} {counts : List Int}
    (h : db.writeAll ws = .ok (counts, db')) : applyAll db ws = (.ok counts, db') := by
  rw [applyAll, h]

theorem applyAll_error {db : Database} {ws : List Write} {e : Failure}
    (h : db.writeAll ws = .error e) : applyAll db ws = (.error e, db) := by
  rw [applyAll, h]

/-- **A request changes nothing and applies nothing, or it applies its commands.** -/
theorem appliedOf_cases (db : Database) (lost : Bool) (q : ClientRequest) :
    (appliedOf db lost q = [] ∧ (reply db lost q).2 = db) ∨
      ∃ ws counts db', q.writes = some ws ∧ db.writeAll ws = .ok (counts, db') ∧
        appliedOf db lost q = [⟨ws, db, db'⟩] ∧ (reply db lost q).2 = db' := by
  have failed {e : Failure} (h : reply db lost q = (.error e, db)) :
      appliedOf db lost q = [] ∧ (reply db lost q).2 = db :=
    ⟨appliedOf_of_error (congrArg Prod.fst h), congrArg Prod.snd h⟩
  have applied {ws : List Write} {answer : q.Answer} {db' : Database} (hws : q.writes = some ws)
      (h : reply db lost q = (.ok answer, db')) :
      appliedOf db lost q = [⟨ws, db, db'⟩] ∧ (reply db lost q).2 = db' := by
    rw [appliedOf_of_ok hws (congrArg Prod.fst h), h]
    exact ⟨rfl, rfl⟩
  cases q with
  | read | watch | begins => exact .inl ⟨rfl, rfl⟩
  | write w =>
    cases h : db.write w with
    | error e => exact .inl (failed (reply_write_error h lost))
    | ok result =>
      exact .inr ⟨[w], _, _, rfl, Database.writeAll_one h, applied rfl (reply_write_ok h lost)⟩
  | transact ws =>
    cases h : db.writeAll ws with
    | error e => exact .inl (failed (applyAll_error h))
    | ok result => exact .inr ⟨ws, _, _, rfl, h, applied rfl (applyAll_ok h)⟩
  | commit ws =>
    cases lost with
    | true => exact .inl (failed rfl)
    | false =>
      cases h : db.writeAll ws with
      | error e => exact .inl (failed (applyAll_error h))
      | ok result => exact .inr ⟨ws, _, _, rfl, h, applied rfl (applyAll_ok h)⟩

/-- A client in the middle of an operation: which one it is, how it goes on, the keys that are
watched, and whether one of them was written since. -/
structure Session where
  request : AlertRequest
  rest : Script Client request.Answer
  watched : List String
  lost : Bool

/-- A client loses its watch if a watched key is written. -/
def Session.touch (touched : List String) (c : Session) : Session :=
  { c with lost := c.lost || c.watched.any touched.contains }

/-- What a client applied. -/
structure Entry where
  session : Nat
  request : AlertRequest
  applied : Applied

/-- A server with its clients, and all that was applied. -/
structure Shared where
  data : Database
  sessions : List Session
  journal : List Entry

/-- The keys that a request writes to: all those that it changes, and none that it does not
name. -/
structure Touches (db db' : Database) (q : ClientRequest) (touched : List String) : Prop where
  changed : ∀ key, db'.get? key ≠ db.get? key → key ∈ touched
  named : ∀ key ∈ touched, key ∈ keysOf (q.writes.getD [])

namespace Shared

/-- The server before its first client. -/
def start : Shared :=
  ⟨[], [], []⟩

/-- A client begins an operation. -/
def opened (st : AlertStore) (s : Shared) (request : AlertRequest) : Shared :=
  { s with sessions := s.sessions ++ [⟨request, st.serve request, [], false⟩] }

/-- The next request of a client is served. -/
def served (s : Shared) (i : Nat) (c : Session) (q : ClientRequest)
    (next : Except Failure q.Answer → Script Client c.request.Answer) (touched : List String) :
    Shared where
  data := (reply s.data c.lost q).2
  sessions := (s.sessions.map (·.touch touched)).set i
    { request := c.request
      rest := next (reply s.data c.lost q).1
      watched := q.watchedAfter c.watched
      lost := q.lostAfter (c.touch touched).lost }
  journal := s.journal ++ (appliedOf s.data c.lost q).map (⟨i, c.request, ·⟩)

/-- A client begins an operation, or the next request of a client is served. -/
inductive Step (st : AlertStore) (s : Shared) : Shared → Prop where
  | opens (request : AlertRequest) : Step st s (s.opened st request)
  | serves {i : Nat} {c : Session} {q : ClientRequest}
      {next : Except Failure q.Answer → Script Client c.request.Answer} {touched : List String}
      (here : s.sessions[i]? = some c) (asks : c.rest = .ask q next)
      (touches : Touches s.data (reply s.data c.lost q).2 q touched) :
      Step st s (s.served i c q next touched)

/-- Any number of steps. -/
def Steps (st : AlertStore) : Shared → Shared → Prop :=
  Relation.ReflTransGen (Step st)

/-- The states that come of the steps of any clients. -/
def Reachable (st : AlertStore) (s : Shared) : Prop :=
  Steps st start s

/-- What a client applied so far. -/
def appliedBy (s : Shared) (i : Nat) : List Applied :=
  (s.journal.filter (·.session == i)).map (·.applied)

/-! ### The journal -/

/-- What was applied leads from data to data, each time from where it had led before. -/
def Leads (db : Database) : List Entry → Database → Prop
  | [], db' => db = db'
  | e :: es, db' => e.applied.before = db ∧ Leads e.applied.after es db'

theorem Leads.append {db db₁ db₂ : Database} {es es' : List Entry} (first : Leads db es db₁)
    (second : Leads db₁ es' db₂) : Leads db (es ++ es') db₂ := by
  induction es generalizing db with
  | nil =>
    obtain rfl : db = db₁ := first
    exact second
  | cons e es ih => exact ⟨first.1, ih first.2⟩

/-- A relation that each entry keeps to holds between the ends. -/
theorem Leads.rel {R : Database → Database → Prop} (refl : ∀ db, R db db)
    (trans : ∀ {a b c}, R a b → R b c → R a c) {db db' : Database} {es : List Entry}
    (h : Leads db es db') (each : ∀ e ∈ es, R e.applied.before e.applied.after) : R db db' := by
  induction es generalizing db with
  | nil =>
    obtain rfl : db = db' := h
    exact refl db
  | cons e es ih =>
    obtain ⟨first, rest⟩ := List.forall_mem_cons.mp each
    obtain ⟨rfl, h⟩ := h
    exact trans first (ih h rest)

/-- What a request applied leads from the data before it to the data after it. -/
theorem leads_appliedOf (db : Database) (lost : Bool) (q : ClientRequest) (i : Nat)
    (request : AlertRequest) :
    Leads db ((appliedOf db lost q).map (⟨i, request, ·⟩)) (reply db lost q).2 := by
  rcases appliedOf_cases db lost q with ⟨happlied, hdata⟩ | ⟨ws, counts, db', -, -, happlied, hdata⟩
  · rw [happlied, hdata]
    rfl
  · rw [happlied, hdata]
    exact ⟨rfl, rfl⟩

variable {st : AlertStore} {s s' : Shared}

/-- **The journal leads from the data before to the data after**, and only grows. -/
theorem Steps.leads (steps : Steps st s s') :
    ∃ new, s'.journal = s.journal ++ new ∧ Leads s.data new s'.data := by
  induction steps with
  | refl => exact ⟨[], (List.append_nil _).symm, rfl⟩
  | tail _ step ih =>
    obtain ⟨new, hjournal, leads⟩ := ih
    cases step with
    | opens request => exact ⟨new, hjournal, leads⟩
    | @serves i c q _ _ here asks touches =>
      refine ⟨_, ?_, leads.append (leads_appliedOf _ c.lost q i c.request)⟩
      rw [served, hjournal, List.append_assoc]

/-! ### Evaluation -/

/-- What may happen next: a client begins an operation, or a client's request is served. -/
inductive Move where
  | opens (request : AlertRequest)
  | serves (client : Nat)

/-- The state after a move, with all keys written that the served request names. -/
def move (st : AlertStore) (s : Shared) : Move → Shared
  | .opens request => s.opened st request
  | .serves i =>
    match s.sessions[i]? with
    | none => s
    | some c =>
      match c.rest with
      | .done _ => s
      | .ask q next => s.served i c q next (keysOf (q.writes.getD []))

/-- The state after some moves. -/
def play (st : AlertStore) (moves : List Move) : Shared :=
  moves.foldl (move st) start

theorem touches_named (db : Database) (lost : Bool) (q : ClientRequest) :
    Touches db (reply db lost q).2 q (keysOf (q.writes.getD [])) := by
  refine ⟨fun key changed => ?_, fun key h => h⟩
  rcases appliedOf_cases db lost q with ⟨-, hdata⟩ | ⟨ws, counts, db', hws, hwrite, -, hdata⟩
  · exact absurd (congrArg (Table.get? · key) hdata) changed
  · rw [hdata] at changed
    rw [hws]
    exact Decidable.byContradiction fun other => changed (Database.get?_of_writeAll hwrite other)

theorem steps_move (st : AlertStore) (s : Shared) (m : Move) : Steps st s (s.move st m) := by
  cases m with
  | opens request => exact .single (.opens request)
  | serves i =>
    rw [move]
    split
    · exact .refl
    · next c here =>
      split
      · exact .refl
      · next q next asks => exact .single (.serves here asks (touches_named ..))

/-- All moves lead to reachable states. -/
theorem reachable_play (st : AlertStore) (moves : List Move) : Reachable st (play st moves) := by
  have steps (s : Shared) : Steps st s (moves.foldl (move st) s) := by
    induction moves generalizing s with
    | nil => exact .refl
    | cons m moves ih => exact (steps_move st s m).trans (ih _)
  exact steps start

end Shared

end LogAlert.KeyValue
