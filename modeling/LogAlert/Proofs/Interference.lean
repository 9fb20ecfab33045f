import LogAlert.Proofs.SharedServer

/-!
# Scripts among other clients

What a script of a client ends in, and what it applies, when other clients write between its
requests.  Between two requests the data may change in any way that keeps an invariant; but as long
as the client has not lost its watch, the keys that it watches hold what they held when the watch
began.  If each operation is safe in this sense by itself, then any number of them are safe
together.

## Main definitions

* `Stance` : what a client has applied, and what it can rely on.
* `Safe` : the script keeps the invariant and its promise about what it applies, and ends well.
* `Contract` : an invariant, and for each operation a promise and what its end ensures.
* `Shared.Kept` : all clients of a server act under a contract.

## Main results

* `safe_bind`, `safe_attempt`, `Safe.retry`, … : the rules for scripts.
* `Contract.kept` : operations that are safe by themselves are safe together.
-/

namespace LogAlert.KeyValue

/-- What a client can rely on: the keys that it watches, the data when the watch began, whether
the watch is known to be lost, and what the client has applied so far. -/
structure Stance where
  watched : List String
  snapshot : Database
  lost : Bool
  applied : List Applied

namespace Stance

/-- The stance in which an operation begins. -/
def start : Stance :=
  ⟨[], [], false, []⟩

/-- The watched keys hold what they held when the watch began. -/
def Agrees (g : Stance) (db : Database) : Prop :=
  ∀ key ∈ g.watched, db.get? key = g.snapshot.get? key

/-- The data that a client may meet, and whether its watch is lost then. -/
structure Meets (Inv : Database → Prop) (g : Stance) (db : Database) (lost : Bool) : Prop where
  inv : Inv db
  loses : g.lost → lost
  agrees : lost = false → g.Agrees db

/-- The stance after a request was served on some data. -/
def after (g : Stance) (q : ClientRequest) (db : Database) (lost : Bool) : Stance where
  watched := q.watchedAfter g.watched
  snapshot :=
    match q with
    | .watch _ => db
    | .read _ | .write _ | .commit _ | .transact _ | .begins _ => g.snapshot
  lost := q.lostAfter lost
  applied := g.applied ++ appliedOf db lost q

variable {g : Stance} {q : ClientRequest} {db : Database} {lost : Bool}

theorem after_read (r : Read) : g.after (.read r) db lost = { g with lost } :=
  congrArg (Stance.mk g.watched g.snapshot lost) (List.append_nil _)

theorem after_begins (operation : String) : g.after (.begins operation) db lost = { g with lost } :=
  congrArg (Stance.mk g.watched g.snapshot lost) (List.append_nil _)

theorem after_watch (keys : List String) :
    g.after (.watch keys) db lost = ⟨keys, db, false, g.applied⟩ :=
  congrArg (Stance.mk keys db false) (List.append_nil _)

/-- After a failure nothing is added to what was applied. -/
theorem after_error {e : Failure} (h : (reply db lost q).1 = .error e) :
    g.after q db lost = { g.after q db lost with applied := g.applied } := by
  refine congrArg (Stance.mk _ _ _) ?_
  rw [appliedOf_of_error h, List.append_nil]

/-- After commands were applied, they are added. -/
theorem after_ok {ws : List Write} {answer : q.Answer} (hws : q.writes = some ws)
    (h : (reply db lost q).1 = .ok answer) :
    g.after q db lost =
      { g.after q db lost with applied := g.applied ++ [⟨ws, db, (reply db lost q).2⟩] } := by
  refine congrArg (Stance.mk _ _ _) ?_
  rw [appliedOf_of_ok hws h]

end Stance

variable {α β : Type}

/-- Whatever the other clients do, the script keeps the invariant, what it has applied so far keeps
the promise at any time, and it ends in a stance and a result of which `P` holds. -/
def Safe (Inv : Database → Prop) (Along : List Applied → Prop) :
    Script Client α → (Stance → Except Failure α → Prop) → Stance → Prop
  | .done result, P, g => P g result
  | .ask q next, P, g => ∀ db lost, g.Meets Inv db lost →
      Inv (reply db lost q).2 ∧ Along (g.after q db lost).applied ∧
        Safe Inv Along (next (reply db lost q).1) P (g.after q db lost)

variable {Inv : Database → Prop} {Along : List Applied → Prop} {g : Stance}

/-! ### Rules -/

theorem Safe.imp {script : Script Client α} {P Q : Stance → Except Failure α → Prop}
    (h : Safe Inv Along script P g) (imp : ∀ g result, P g result → Q g result) :
    Safe Inv Along script Q g := by
  induction script generalizing g with
  | done result => exact imp g result h
  | ask q next ih =>
    intro db lost meets
    obtain ⟨inv, along, rest⟩ := h db lost meets
    exact ⟨inv, along, ih _ rest⟩

/-- What the second of two scripts has to start from. -/
def Onward (Inv : Database → Prop) (Along : List Applied → Prop) (next : α → Script Client β)
    (P : Stance → Except Failure β → Prop) (g : Stance) : Except Failure α → Prop
  | .ok a => Safe Inv Along (next a) P g
  | .error e => P g (.error e)

/-- One script after the other. -/
theorem safe_bind {script : Script Client α} {next : α → Script Client β}
    {P : Stance → Except Failure β → Prop} :
    Safe Inv Along (script >>= next) P g ↔
      Safe Inv Along script (Onward Inv Along next P) g := by
  induction script generalizing g with
  | done result => cases result <;> rfl
  | ask q more ih =>
    constructor
    · intro h db lost meets
      obtain ⟨inv, along, rest⟩ := h db lost meets
      exact ⟨inv, along, (ih _).mp rest⟩
    · intro h db lost meets
      obtain ⟨inv, along, rest⟩ := h db lost meets
      exact ⟨inv, along, (ih _).mpr rest⟩

/-- A script whose failure is an answer. -/
theorem safe_attempt {script : Script Client α}
    {P : Stance → Except Failure (Except Failure α) → Prop} :
    Safe Inv Along script.attempt P g ↔
      Safe Inv Along script (fun g result => P g (.ok result)) g := by
  induction script generalizing g with
  | done result => rfl
  | ask q more ih =>
    constructor
    · intro h db lost meets
      obtain ⟨inv, along, rest⟩ := h db lost meets
      exact ⟨inv, along, (ih _).mp rest⟩
    · intro h db lost meets
      obtain ⟨inv, along, rest⟩ := h db lost meets
      exact ⟨inv, along, (ih _).mpr rest⟩

/-- A script whose failures of the server are failures of the store. -/
theorem Safe.guarded {script : Script Client α} {P : Stance → Except Failure α → Prop}
    {action : String}
    (h : Safe Inv Along script
      (fun g result => P g (result.mapError (AlertStore.storeFailure action))) g) :
    Safe Inv Along (AlertStore.guarded action script) P g := by
  refine safe_bind.mpr (safe_attempt.mpr (h.imp fun g result ended => ?_))
  cases result with
  | ok a => exact ended
  | error e => exact ended

/-- What one of several tries has to end in, if a failure of it leaves `I` as it was. -/
def Tried (I : List Applied → Prop) (P : Stance → Except Failure α → Prop) (g : Stance) :
    Except Failure α → Prop
  | .ok a => P g (.ok a)
  | .error _ => I g.applied

/-- A script that is tried again.  Each try starts from what the last one left, and a failure
leaves it so. -/
theorem Safe.retry {script : Script Client α} {P : Stance → Except Failure α → Prop}
    {I : List Applied → Prop} {action : String} {lost : Failure}
    (once : ∀ g : Stance, I g.applied → Safe Inv Along script (Tried I P) g)
    (fails : ∀ g e, I g.applied → P g (.error e)) (n : Nat) (hg : I g.applied) :
    Safe Inv Along (AlertStore.retry action lost script n) P g := by
  induction n generalizing g with
  | zero => exact fails g lost hg
  | succ n ih =>
    refine safe_bind.mpr (safe_attempt.mpr ((once g hg).imp fun g result ended => ?_))
    cases result with
    | ok a => exact ended
    | error e =>
      change Safe Inv Along (if e.isRace then _ else _) P g
      split
      · exact ih ended
      · exact fails g _ ended

/-- What follows a result. -/
theorem Safe.ofExcept_bind {result : Except Failure α} {next : α → Script Client β}
    {P : Stance → Except Failure β → Prop} (h : Onward Inv Along next P g result) :
    Safe Inv Along (.ofExcept result >>= next) P g :=
  safe_bind.mpr h

/-! ### Requests -/

section Requests

variable {P : Stance → Except Failure α → Prop}

/-- An operation tells that it begins. -/
theorem Safe.begins_bind {operation : String} {next : Unit → Script Client α}
    (along : Along g.applied)
    (h : ∀ db lost, g.Meets Inv db lost → Safe Inv Along (next ()) P { g with lost }) :
    Safe Inv Along (Client.begins operation >>= next) P g := by
  intro db lost meets
  rw [Stance.after_begins]
  exact ⟨meets.inv, along, h db lost meets⟩

/-- A client reads. -/
theorem Safe.read_bind {r : Read} {next : r.Answer → Script Client α} (along : Along g.applied)
    (h : ∀ db lost, g.Meets Inv db lost → Onward Inv Along next P { g with lost } (db.read r)) :
    Safe Inv Along (Client.read r >>= next) P g := by
  refine safe_bind.mpr fun db lost meets => ?_
  rw [Stance.after_read]
  exact ⟨meets.inv, along, h db lost meets⟩

/-- A watch begins. -/
theorem Safe.watch_bind {keys : List String} {next : Unit → Script Client α}
    (along : Along g.applied)
    (h : ∀ db, Inv db → Safe Inv Along (next ()) P ⟨keys, db, false, g.applied⟩) :
    Safe Inv Along (Client.watch keys >>= next) P g := by
  intro db lost meets
  rw [Stance.after_watch]
  exact ⟨meets.inv, along, h db meets.inv⟩

/-- A client writes without a transaction. -/
theorem Safe.write {w : Write} {P : Stance → Except Failure Int → Prop} (along : Along g.applied)
    (fails : ∀ e lost, P { g with lost } (.error e))
    (applies : ∀ db lost n db', g.Meets Inv db lost → db.write w = .ok (n, db') →
      Inv db' ∧ Along (g.applied ++ [⟨[w], db, db'⟩]) ∧
        P { g with lost, applied := g.applied ++ [⟨[w], db, db'⟩] } (.ok n)) :
    Safe Inv Along (Client.write w) P g := by
  intro db lost meets
  cases h : db.write w with
  | error e =>
    have hreply := reply_write_error h lost
    rw [Stance.after_error (congrArg Prod.fst hreply), hreply]
    exact ⟨meets.inv, along, fails e lost⟩
  | ok result =>
    have hreply := reply_write_ok h lost
    rw [Stance.after_ok rfl (congrArg Prod.fst hreply), hreply]
    exact applies db lost _ _ meets h

/-- A client applies a transaction without a watch. -/
theorem Safe.transact {ws : List Write} {P : Stance → Except Failure (List Int) → Prop}
    (along : Along g.applied) (fails : ∀ e lost, P { g with lost } (.error e))
    (applies : ∀ db lost counts db', g.Meets Inv db lost → db.writeAll ws = .ok (counts, db') →
      Inv db' ∧ Along (g.applied ++ [⟨ws, db, db'⟩]) ∧
        P { g with lost, applied := g.applied ++ [⟨ws, db, db'⟩] } (.ok counts)) :
    Safe Inv Along (Client.transact ws) P g := by
  intro db lost meets
  cases h : db.writeAll ws with
  | error e =>
    have hreply : reply db lost (.transact ws) = (.error e, db) := applyAll_error h
    rw [Stance.after_error (congrArg Prod.fst hreply), hreply]
    exact ⟨meets.inv, along, fails e lost⟩
  | ok result =>
    have hreply : reply db lost (.transact ws) = (.ok result.1, result.2) := applyAll_ok h
    rw [Stance.after_ok rfl (congrArg Prod.fst hreply), hreply]
    exact applies db lost _ _ meets h

/-- **A client commits**: it fails and applies nothing, or its watch is not lost, and the watched
keys still hold what they held when the watch began. -/
theorem Safe.commit {ws : List Write} {P : Stance → Except Failure (List Int) → Prop}
    (along : Along g.applied) (fails : ∀ e, P ⟨[], g.snapshot, false, g.applied⟩ (.error e))
    (applies : ∀ db counts db', Inv db → g.lost = false → g.Agrees db →
      db.writeAll ws = .ok (counts, db') → Inv db' ∧ Along (g.applied ++ [⟨ws, db, db'⟩]) ∧
        P ⟨[], g.snapshot, false, g.applied ++ [⟨ws, db, db'⟩]⟩ (.ok counts)) :
    Safe Inv Along (Client.commit ws) P g := by
  intro db lost meets
  have failed {e : Failure} (hreply : reply db lost (.commit ws) = (.error e, db)) :
      Inv (reply db lost (.commit ws)).2 ∧ Along (g.after (.commit ws) db lost).applied ∧
        P (g.after (.commit ws) db lost) (reply db lost (.commit ws)).1 := by
    rw [Stance.after_error (congrArg Prod.fst hreply), hreply]
    exact ⟨meets.inv, along, fails e⟩
  cases lost with
  | true => exact failed rfl
  | false =>
    cases h : db.writeAll ws with
    | error e => exact failed (applyAll_error h)
    | ok result =>
      have hreply : reply db false (.commit ws) = (.ok result.1, result.2) := applyAll_ok h
      have kept : g.lost = false := Bool.eq_false_iff.mpr fun lost => nomatch meets.loses lost
      rw [Stance.after_ok rfl (congrArg Prod.fst hreply), hreply]
      exact applies db _ _ meets.inv kept (meets.agrees rfl) h

end Requests

/-! ### Scripts that only read -/

/-- The script asks for nothing but readings, whatever it is answered. -/
inductive ReadsOnly : Script Client α → Prop where
  | done (result : Except Failure α) : ReadsOnly (.done result)
  | read {r : Read} {next : Except Failure r.Answer → Script Client α}
      (rest : ∀ answer, ReadsOnly (next answer)) : ReadsOnly (.ask (.read r) next)
  | begins {operation : String} {next : Except Failure Unit → Script Client α}
      (rest : ∀ answer, ReadsOnly (next answer)) : ReadsOnly (.ask (.begins operation) next)

namespace ReadsOnly

theorem bind {script : Script Client α} {next : α → Script Client β} (first : ReadsOnly script)
    (second : ∀ a, ReadsOnly (next a)) : ReadsOnly (script >>= next) := by
  induction first with
  | done result =>
    cases result with
    | error e => exact .done _
    | ok a => exact second a
  | read _ ih => exact .read ih
  | begins _ ih => exact .begins ih

theorem attempt {script : Script Client α} (h : ReadsOnly script) : ReadsOnly script.attempt := by
  induction h with
  | done result => exact .done _
  | read _ ih => exact .read ih
  | begins _ ih => exact .begins ih

theorem guarded {script : Script Client α} (h : ReadsOnly script) (action : String) :
    ReadsOnly (AlertStore.guarded action script) :=
  h.attempt.bind fun
    | .ok _ => .done _
    | .error _ => .done _

theorem mapList {f : β → Script Client α} (h : ∀ b, ReadsOnly (f b)) (bs : List β) :
    ReadsOnly (Script.mapList f bs) := by
  induction bs with
  | nil => exact .done _
  | cons b bs ih => exact (h b).bind fun _ => ih.bind fun _ => .done _

/-- A script that only reads applies nothing. -/
theorem safe {script : Script Client α} (h : ReadsOnly script)
    {P : Stance → Except Failure α → Prop} (along : Along g.applied)
    (ends : ∀ lost result, P { g with lost } result) : Safe Inv Along script P g := by
  induction h generalizing g with
  | done result => exact ends g.lost result
  | read _ ih =>
    intro db lost meets
    rw [Stance.after_read]
    exact ⟨meets.inv, along, ih _ along ends⟩
  | begins _ ih =>
    intro db lost meets
    rw [Stance.after_begins]
    exact ⟨meets.inv, along, ih _ along ends⟩

end ReadsOnly

/-! ### Any number of clients -/

/-- An invariant of the data, and for each operation what it promises about what it has applied at
any time, and what its end ensures. -/
structure Contract where
  Inv : Database → Prop
  Along : AlertRequest → List Applied → Prop
  Ends : (request : AlertRequest) → List Applied → Except Failure request.Answer → Prop

namespace Contract

variable (k : Contract) {st : AlertStore} {s s' : Shared}

/-- What the operations of a store have to fulfil one by one. -/
structure Fulfilled (st : AlertStore) : Prop where
  start : k.Inv []
  along : ∀ request, k.Along request []
  safe : ∀ request, Safe k.Inv (k.Along request) (st.serve request)
    (fun g result => k.Ends request g.applied result) .start

/-- A client acts under the contract, on some data and having applied something. -/
def Holds (db : Database) (c : Session) (applied : List Applied) : Prop :=
  ∃ g : Stance, g.applied = applied ∧ g.watched = c.watched ∧ (g.lost → c.lost) ∧
    (c.lost = false → g.Agrees db) ∧ k.Along c.request applied ∧
    Safe k.Inv (k.Along c.request) c.rest
      (fun g result => k.Ends c.request g.applied result) g

/-- The invariant holds, and all clients act under the contract. -/
structure Kept (s : Shared) : Prop where
  inv : k.Inv s.data
  known : ∀ e ∈ s.journal, ∃ c, s.sessions[e.session]? = some c ∧ c.request = e.request
  holds : ∀ i c, s.sessions[i]? = some c → k.Holds s.data c (s.appliedBy i)

variable {k}

/-- Writes to keys that a client watches make it lose its watch, and others do not concern it. -/
theorem agrees_touch {g : Stance} {c : Session} {db db' : Database} {q : ClientRequest}
    {touched : List String} (watched : g.watched = c.watched)
    (agrees : c.lost = false → g.Agrees db) (touches : Touches db db' q touched)
    (kept : (c.touch touched).lost = false) : g.Agrees db' := by
  obtain ⟨before, untouched⟩ := Bool.or_eq_false_iff.mp kept
  intro key hkey
  rw [← agrees before key hkey]
  refine Classical.byContradiction fun changed => ?_
  have hmem := List.contains_iff_mem.mpr (touches.changed key changed)
  rw [watched] at hkey
  exact List.any_eq_false.mp untouched key hkey hmem

theorem Holds.touch {db db' : Database} {q : ClientRequest} {touched : List String} {c : Session}
    {applied : List Applied} (h : k.Holds db c applied) (touches : Touches db db' q touched) :
    k.Holds db' (c.touch touched) applied := by
  obtain ⟨g, happlied, watched, loses, agrees, along, safe⟩ := h
  exact ⟨g, happlied, watched, fun lost => Bool.or_eq_true_iff.mpr (.inl (loses lost)),
    agrees_touch watched agrees touches, along, safe⟩

/-- After its own request, a client that has not lost its watch still meets what it watches. -/
theorem agrees_after {g : Stance} {c : Session} {db : Database} {q : ClientRequest}
    {touched : List String} (watched : g.watched = c.watched)
    (agrees : c.lost = false → g.Agrees db)
    (touches : Touches db (reply db c.lost q).2 q touched)
    (kept : q.lostAfter (c.touch touched).lost = false) :
    (g.after q db c.lost).Agrees (reply db c.lost q).2 := by
  cases q with
  | watch keys => exact fun key _ => rfl
  | commit ws => exact fun key hkey => nomatch hkey
  | read | write | transact | begins => exact agrees_touch watched agrees touches kept

/-- A client has applied nothing before it begins. -/
private theorem Kept.appliedBy_length (kept : k.Kept s) : s.appliedBy s.sessions.length = [] := by
  refine List.map_eq_nil_iff.mpr (List.filter_eq_nil_iff.mpr fun e he heq => ?_)
  obtain ⟨c, here, -⟩ := kept.known e he
  obtain ⟨lt, -⟩ := List.getElem?_eq_some_iff.mp here
  exact absurd (eq_of_beq heq) (Nat.ne_of_lt lt)

private theorem Kept.opened (kept : k.Kept s) (h : k.Fulfilled st) (request : AlertRequest) :
    k.Kept (s.opened st request) where
  inv := kept.inv
  known e he := by
    obtain ⟨c, here, hrequest⟩ := kept.known e he
    obtain ⟨lt, -⟩ := List.getElem?_eq_some_iff.mp here
    exact ⟨c, (List.getElem?_append_left lt).trans here, hrequest⟩
  holds i c here := by
    rw [Shared.opened, List.getElem?_append] at here
    split at here
    · exact kept.holds i c here
    · rw [List.getElem?_singleton] at here
      split at here
      · obtain rfl := Option.some.inj here
        obtain rfl : i = s.sessions.length := by omega
        refine ⟨.start, kept.appliedBy_length.symm, rfl, nofun, fun _ key hkey => ?_,
          ?_, h.safe request⟩
        · cases hkey
        · change k.Along request (s.appliedBy _)
          rw [kept.appliedBy_length]
          exact h.along request
      · cases here

private theorem appliedBy_served (s : Shared) (i j : Nat) (c : Session) (q : ClientRequest)
    (next : Except Failure q.Answer → Script Client c.request.Answer) (touched : List String) :
    (s.served i c q next touched).appliedBy j =
      s.appliedBy j ++ if i = j then appliedOf s.data c.lost q else [] := by
  rw [Shared.appliedBy, Shared.served, List.filter_append, List.map_append]
  refine congrArg (s.appliedBy j ++ ·) ?_
  rw [List.filter_map, List.map_map]
  by_cases hij : i = j
  · simp [hij, Function.comp_def]
  · simp [hij, Function.comp_def]

private theorem Kept.served (kept : k.Kept s) {i : Nat} {c : Session} {q : ClientRequest}
    {next : Except Failure q.Answer → Script Client c.request.Answer} {touched : List String}
    (here : s.sessions[i]? = some c) (asks : c.rest = .ask q next)
    (touches : Touches s.data (reply s.data c.lost q).2 q touched) :
    k.Kept (s.served i c q next touched) := by
  obtain ⟨lt, -⟩ := List.getElem?_eq_some_iff.mp here
  have hi : (s.served i c q next touched).sessions[i]? = some
      { request := c.request
        rest := next (reply s.data c.lost q).1
        watched := q.watchedAfter c.watched
        lost := q.lostAfter (c.touch touched).lost } :=
    List.getElem?_set_self (by rwa [List.length_map])
  have hj {j : Nat} (hij : i ≠ j) : (s.served i c q next touched).sessions[j]? =
      s.sessions[j]?.map (·.touch touched) := by
    rw [Shared.served, List.getElem?_set_ne hij, List.getElem?_map]
  obtain ⟨g, happlied, hwatched, loses, agrees, along, safe⟩ := kept.holds i c here
  rw [asks] at safe
  obtain ⟨inv, along, safe⟩ := safe s.data c.lost ⟨kept.inv, loses, agrees⟩
  refine ⟨inv, fun e he => ?_, fun j d there => ?_⟩
  · -- the requests of the clients stay the same
    rcases List.mem_append.mp he with he | he
    · obtain ⟨d, there, hrequest⟩ := kept.known e he
      by_cases hij : i = e.session
      · rw [← hij] at there ⊢
        obtain rfl := Option.some.inj (here.symm.trans there)
        exact ⟨_, hi, hrequest⟩
      · exact ⟨_, (hj hij).trans (congrArg _ there), hrequest⟩
    · obtain ⟨a, -, rfl⟩ := List.mem_map.mp he
      exact ⟨_, hi, rfl⟩
  · rw [appliedBy_served]
    by_cases hij : i = j
    · subst hij
      obtain rfl := Option.some.inj (hi.symm.trans there)
      rw [if_pos rfl, ← happlied]
      refine ⟨g.after q s.data c.lost, rfl, congrArg q.watchedAfter hwatched, fun lost => ?_,
        agrees_after hwatched agrees touches, along, safe⟩
      have hlost : c.lost → (c.touch touched).lost := fun h => Bool.or_eq_true_iff.mpr (.inl h)
      cases q with
      | watch | commit => cases lost
      | read | write | transact | begins => exact hlost lost
    · rw [if_neg hij, List.append_nil]
      obtain ⟨d, hd, rfl⟩ := Option.map_eq_some_iff.mp ((hj hij).symm.trans there)
      exact (kept.holds j d hd).touch touches

/-- **Operations that are safe by themselves are safe together.** -/
theorem Fulfilled.kept_step (h : k.Fulfilled st) (kept : k.Kept s) (step : s.Step st s') :
    k.Kept s' := by
  cases step with
  | opens request => exact kept.opened h request
  | serves here asks touches => exact kept.served here asks touches

/-- All reachable states keep the contract. -/
theorem Fulfilled.kept (h : k.Fulfilled st) (reachable : s.Reachable st) : k.Kept s := by
  induction reachable with
  | refl =>
    refine ⟨h.start, fun e he => ?_, fun i c here => ?_⟩
    · cases he
    · cases here
  | tail _ step ih => exact h.kept_step ih step

end Contract

end LogAlert.KeyValue
