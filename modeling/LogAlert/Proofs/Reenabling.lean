import Mathlib.Data.List.Induction
import LogAlert.Proofs.Administration
import LogAlert.Proofs.Evaluation
import LogAlert.Proofs.Interleavings
import LogAlert.Proofs.TickCalls

/-!
# Alerts that are enabled during a tick

A tick and any number of requests to switch alerts work on one book, and their calls to it come in
any order.  An alert that is enabled again is stored with the cursor that the request read.  So the
time of a trigger that the tick has stored stays, unless a request read the alert before that and
stores it afterwards: then the alert has the time of its last trigger that the request read.

## Main definitions

* `AlertBook.Serves` : how a book answers the calls of the engine to it.
* `Switching.Interleaved` : the calls of a tick and of requests to switch alerts, interleaved.
* `Switching.Spans` : a request read the alert before some time and enabled it afterwards.

## Main results

* `Switching.Interleaved.lastTriggered` : the time of the last trigger after a tick has stored it.
* `Switching.reenabling_loses_trigger` : it may be lost.
-/

namespace LogAlert

/-- A book answers a call to it and changes with it; any other call may have any answer. -/
def AlertBook.Serves (b : AlertBook) (c : Call Engine) (b' : AlertBook) : Prop :=
  match c with
  | ⟨.alerts r, answer⟩ => b.answer r = (answer, b')
  | _ => b' = b

/-- A world answers as its book does. -/
theorem World.serves_answer (notifier : Notifier) (q : EngineRequest) (w : World) :
    w.book.Serves ⟨q, (World.answer notifier q w).1⟩ (World.answer notifier q w).2.book := by
  cases q <;> rfl

theorem AlertBook.Keyed.serves {b b' : AlertBook} {c : Call Engine} (hb : b.Keyed)
    (h : b.Serves c b') : b'.Keyed := by
  obtain ⟨q, answer⟩ := c
  cases q with
  | alerts r =>
    have hb' : b' = (b.answer r).2 := (congrArg Prod.snd (h : b.answer r = (answer, b'))).symm
    rw [hb']
    exact hb.answer r
  | logs | now | notify | evaluating =>
    obtain rfl : b' = b := h
    exact hb

/-- The call stores the time `t` as that of the last trigger of the alert `i`. -/
def Call.Stores (i : Int) (t : Moment) (c : Call Engine) : Prop :=
  ∃ a u moved, c = ⟨.alerts (.updateCursor a u), .ok moved⟩ ∧ a.id = some i ∧
    u.lastTriggered = some t

/-- The cursor that a request asks to write, and its alert. -/
def EngineRequest.update? : EngineRequest → Option (Alert × Cursor)
  | .alerts (.updateCursor a u) => some (a, u)
  | _ => none

instance (i : Int) (t : Moment) (c : Call Engine) : Decidable (c.Stores i t) :=
  decidable_of_iff (c.answer.isOk ∧
      ∃ x ∈ c.request.update?, x.1.id = some i ∧ x.2.lastTriggered = some t) <| by
    constructor
    · rintro ⟨ok, x, update, id, time⟩
      obtain ⟨q, answer⟩ := c
      cases q with
      | alerts r =>
        cases r with
        | updateCursor a u =>
          obtain rfl := Option.some.inj update
          cases answer with
          | ok moved => exact ⟨a, u, moved, rfl, id, time⟩
          | error e => cases ok
        | _ => cases update
      | _ => cases update
    · rintro ⟨a, u, moved, rfl, id, time⟩
      exact ⟨rfl, (a, u), rfl, id, time⟩

namespace Switching

/-- Who calls: the tick, or one of the requests to switch an alert. -/
inductive Party where
  | tick
  | toggle (n : Nat)
  deriving DecidableEq

/-- The book comes from `b` to `b'` by calls of a tick and of requests to switch the alerts
`toggled`, which are begun and need not be at their end. -/
structure Interleaved (previewChars : Int) (toggled : Nat → Alert) (b : AlertBook)
    (deeds : List (Deed Party Engine)) (b' : AlertBook) : Prop where
  served : Served AlertBook.Serves b deeds b'
  tick : (Evaluator.tick previewChars).Begins (callsOf .tick deeds)
  toggles : ∀ n, (Service.toggleAlert (toggled n)).Begins (callsOf (.toggle n) deeds)

/-- A request reads an alert. -/
def Reads (n : Nat) (current : Alert) (d : Deed Party Engine) : Prop :=
  ∃ id, d = ⟨.toggle n, ⟨.alerts (.get id), .ok (some current)⟩⟩

/-- A request stores an alert that it read, with another baseline and enabled. -/
def Enables (n : Nat) (current : Alert) (d : Deed Party Engine) : Prop :=
  ∃ newest answer, d = ⟨.toggle n, ⟨.alerts (.save
    (Service.switched current true { current.cursor with lastSeen := newest }) true), answer⟩⟩

/-- A request read the alert `i` as `current` among the first deeds, and enables it among the
last. -/
structure Spans (before after : List (Deed Party Engine)) (i : Int) (n : Nat) (current : Alert) :
    Prop where
  id : current.id = some i
  read : ∃ d ∈ before, Reads n current d
  enabled : ∃ d ∈ after, Enables n current d

end Switching

/-! ### The tick -/

namespace Evaluator

variable {previewChars : Int} {a : Alert}

/-- An evaluation asks the alert store for nothing, for a move of the cursor, or for a record of a
trigger and then a move. -/
theorem Performs.cases_effects {calls : List (Call Engine)} {o : Outcome}
    (h : Performs previewChars a calls o) :
    (∀ c ∈ effects calls, ∀ r, c.request ≠ .alerts r) ∨
      (∃ u moved, effects calls = [⟨.alerts (.updateCursor a u), moved⟩]) ∨
      ∃ type data notifications u now recorded moved,
        effects calls = triggering a type data notifications u now recorded moved := by
  cases h with
  | matched r tokens now notifications recorded moved _ _ _ effects =>
    exact .inr (.inr ⟨_, _, _, _, _, _, _, effects⟩)
  | exceeded count now notifications recorded moved _ _ effects =>
    exact .inr (.inr ⟨_, _, _, _, _, _, _, effects⟩)
  | checked now moved _ effects => exact .inr (.inl ⟨_, _, effects⟩)
  | suppressed r tokens moved _ effects => exact .inr (.inl ⟨_, _, effects⟩)
  | skipped effects =>
    rw [effects]
    exact .inl (List.forall_mem_nil _)
  | failed effects =>
    left
    rcases effects with effects | ⟨type, data, e, effects⟩
    · rw [effects]
      exact List.forall_mem_nil _
    · rw [effects]
      simp

/-- What an evaluation asks the alert store for concerns its own alert. -/
theorem Performs.request {calls : List (Call Engine)} {o : Outcome}
    (h : Performs previewChars a calls o) {c : Call Engine} (hc : c ∈ calls) {r : AlertRequest}
    (hr : c.request = .alerts r) :
    (∃ type data notifications time, r = .createHistory a type data notifications time) ∨
      ∃ u, r = .updateCursor a u := by
  have effect : c ∈ effects calls := List.mem_filter.mpr ⟨hc, by rw [isEffect, hr]⟩
  rcases h.cases_effects with none | ⟨u, moved, effects⟩ |
    ⟨type, data, notifications, u, now, recorded, moved, effects⟩
  · exact absurd hr (none c effect r)
  · rw [effects, List.mem_singleton] at effect
    rw [effect] at hr
    exact .inr ⟨u, (EngineRequest.alerts.inj hr).symm⟩
  · rw [effects, triggering] at effect
    simp only [List.mem_cons, List.not_mem_nil, or_false] at effect
    rcases effect with rfl | rfl | rfl
    · cases hr
    · exact .inl ⟨_, _, _, _, (EngineRequest.alerts.inj hr).symm⟩
    · exact .inr ⟨u, (EngineRequest.alerts.inj hr).symm⟩

/-- If the first call moves the cursor of an alert and the second asks the alert store for
something, then for the record of a trigger or a move of the cursor of another alert. -/
def Apart (c c' : Call Engine) : Prop :=
  ∀ a u r, c.request = .alerts (.updateCursor a u) → c'.request = .alerts r →
    (∃ a' type data notifications time, r = .createHistory a' type data notifications time) ∨
      ∃ a' u', r = .updateCursor a' u' ∧ a'.id ≠ a.id

/-- An evaluation moves the cursor of its alert last. -/
theorem Performs.pairwise_apart {calls : List (Call Engine)} {o : Outcome}
    (h : Performs previewChars a calls o) : calls.Pairwise Apart := by
  have moved_last : (effects calls).Pairwise Apart := by
    rcases h.cases_effects with none | ⟨u, moved, effects⟩ |
      ⟨type, data, notifications, u, now, recorded, moved, effects⟩
    · refine List.Pairwise.imp_of_mem (fun {c c'} hc _ _ a u r hr => ?_)
        (List.pairwise_of_forall fun _ _ => trivial)
      exact absurd hr (none c hc _)
    · rw [effects]
      exact List.pairwise_singleton _ _
    · rw [effects]
      simp [triggering, Apart]
  rw [effects, List.pairwise_filter] at moved_last
  refine moved_last.imp fun {c c'} apart a u r hr hr' => ?_
  refine apart ?_ ?_ a u r hr hr'
  · rw [isEffect, hr]
  · rw [isEffect, hr']

private theorem exists_alert_of_turn {loaded : List Alert} {turns : List Turn}
    (h : List.Forall₂ (Turn.Of previewChars) loaded turns) {turn : Turn} (hturn : turn ∈ turns) :
    ∃ a ∈ loaded, turn.Of previewChars a := by
  induction h with
  | nil => cases hturn
  | @cons a _ _ _ made _ ih =>
    rcases List.mem_cons.mp hturn with rfl | hturn
    · exact ⟨a, List.mem_cons_self, made⟩
    · obtain ⟨a', ha', made'⟩ := ih hturn
      exact ⟨a', List.mem_cons_of_mem a ha', made'⟩

/-- Evaluations of alerts with distinct ids move the cursor of each alert once. -/
theorem pairwise_apart_of_turns {loaded : List Alert} {turns : List Turn}
    (h : List.Forall₂ (Turn.Of previewChars) loaded turns)
    (nodup : (loaded.map Alert.id).Nodup) : (turns.flatMap (·.1)).Pairwise Apart := by
  rw [List.pairwise_flatMap]
  induction h with
  | nil => exact ⟨List.forall_mem_nil _, .nil⟩
  | @cons a turn loaded turns first rest ih =>
    obtain ⟨fresh, nodup⟩ := List.nodup_cons.mp nodup
    obtain ⟨each, between⟩ := ih nodup
    refine ⟨List.forall_mem_cons.mpr ⟨first.performs.pairwise_apart, each⟩, .cons ?_ between⟩
    intro turn' hturn' c hc c' hc' a₀ u r hr hr'
    obtain ⟨a', ha', made⟩ := exists_alert_of_turn rest hturn'
    obtain rfl : a₀ = a := by
      rcases first.performs.request hc hr with ⟨_, _, _, _, h⟩ | ⟨_, h⟩
      · cases h
      · exact (AlertRequest.updateCursor.inj h).1
    rcases made.performs.request hc' hr' with ⟨type, data, notifications, time, h⟩ | ⟨u', h⟩
    · exact .inl ⟨a', type, data, notifications, time, h⟩
    · exact .inr ⟨a', u', h, fun same => fresh (List.mem_map.mpr ⟨a', ha', same⟩)⟩

/-- A tick that has moved the cursor of an alert does not ask the alert store for anything more
that concerns this cursor. -/
theorem apart_of_begins {pre post : List (Call Engine)} {c : Call Engine}
    (h : (tick previewChars).Begins (pre ++ c :: post)) {u : Cursor}
    (hc : c.request = .alerts (.updateCursor a u))
    (nodup : ∀ loaded, ⟨.alerts .listEnabled, .ok loaded⟩ ∈ pre → (loaded.map Alert.id).Nodup) :
    ∀ c' ∈ post, Apart c c' := by
  obtain ⟨more, result, made⟩ := h
  rcases makes_tick.mp made with ⟨e, hcalls, -⟩ | ⟨startedAt, e, hcalls, -⟩ |
    ⟨startedAt, loaded, turns, hturns, hcalls, -⟩
  · have mem : c ∈ pre ++ c :: post ++ more := by simp
    rw [hcalls, List.mem_singleton] at mem
    rw [mem] at hc
    cases hc
  · have mem : c ∈ pre ++ c :: post ++ more := by simp
    rw [hcalls, List.mem_pair] at mem
    rcases mem with rfl | rfl <;> cases hc
  · -- the first two calls read the clock and load the alerts
    rw [List.append_assoc, tickCalls] at hcalls
    rcases pre with _ | ⟨first, _ | ⟨second, pre⟩⟩
    · obtain ⟨rfl, -⟩ := List.cons.inj hcalls
      cases hc
    · obtain ⟨rfl, -⟩ := List.cons.inj (List.cons.inj hcalls).2
      cases hc
    · obtain ⟨rfl, rest⟩ := List.cons.inj (List.cons.inj hcalls).2
      replace rest : turns.flatMap (·.1) = pre ++ (c :: post ++ more) := rest.symm
      have apart := pairwise_apart_of_turns hturns (nodup loaded (by simp))
      rw [rest, List.pairwise_append] at apart
      intro c' hc'
      exact (List.pairwise_cons.mp apart.2.1).1 c' (List.mem_append_left more hc')

end Evaluator

/-! ### The requests -/

namespace Switching

/-- What a request asks the alert store for: the alert, and then to store what it read, disabled
with the cursor left alone, or enabled with another baseline. -/
theorem cases_toggleAlert {a : Alert} {pre post : List (Call Engine)} {c : Call Engine}
    (h : (Service.toggleAlert a).Begins (pre ++ c :: post)) {r : AlertRequest}
    (hc : c.request = .alerts r) :
    (∃ id, r = .get id) ∨
      ∃ id current, ⟨.alerts (.get id), .ok (some current)⟩ ∈ pre ∧
        (r = .save (Service.switched current false current.cursor) false ∨
          ∃ newest, r = .save
            (Service.switched current true { current.cursor with lastSeen := newest }) true) := by
  rcases Script.Begins.ask h with ⟨-, hq⟩ | ⟨found, pre, rfl, read⟩
  · exact .inl ⟨a.id, EngineRequest.alerts.inj (hc.symm.trans hq)⟩
  rcases found with e | _ | current
  · exact absurd read Script.not_begins_done
  · exact absurd read Script.not_begins_done
  refine .inr ⟨a.id, current, List.mem_cons_self, ?_⟩
  change Script.Begins (if current.settings.enabled.isTruthy then _ else _) _ at read
  split at read
  · rcases Script.Begins.ask read with ⟨-, hq⟩ | ⟨answer, pre, rfl, ended⟩
    · exact .inl (EngineRequest.alerts.inj (hc.symm.trans hq))
    · exact absurd ended Script.not_begins_done
  · rcases Script.Begins.ask read with ⟨-, hq⟩ | ⟨newest, pre, rfl, based⟩
    · cases hc.symm.trans hq
    rcases newest with e | newest
    · exact absurd based Script.not_begins_done
    rcases Script.Begins.ask based with ⟨-, hq⟩ | ⟨answer, pre, rfl, ended⟩
    · exact .inr ⟨newest, EngineRequest.alerts.inj (hc.symm.trans hq)⟩
    · exact absurd ended Script.not_begins_done

end Switching

/-! ### The book -/

namespace AlertBook

variable {b b' : AlertBook} {i : Int}

/-- What is read of an alert is what is stored, under its id. -/
theorem Keyed.of_get (hb : b.Keyed) {id : Option Int} {current : Alert}
    (h : b.get id = some current) :
    ∃ j a, current.id = some j ∧ b.alerts.get? j = some a ∧ current.cursor = a.cursor := by
  obtain ⟨a, found, rfl⟩ := Option.map_eq_some_iff.mp h
  obtain ⟨j, -, stored⟩ := Option.bind_eq_some_iff.mp found
  exact ⟨j, a, (hb.id_eq stored :), stored, rfl⟩

/-- Storing settings keeps all cursors. -/
theorem cursor_save {a stored : Alert} {j : Int} (id : a.id = some j)
    (h : b.alerts.get? i = some stored) :
    ∃ after, (b.save a false).1.alerts.get? i = some after ∧ after.cursor = stored.cursor := by
  rw [save_old id, get?_store]
  by_cases hji : j = i
  · subst hji
    rw [if_pos (beq_self_eq_true j), cursorFor, h]
    exact ⟨_, rfl, rfl⟩
  · rw [if_neg (by simpa using hji)]
    exact ⟨stored, h, rfl⟩

/-- Resetting the baseline of an alert stores its cursor, and keeps those of all others. -/
theorem cursor_reset {a stored : Alert} {j : Int} (id : a.id = some j)
    (h : b.alerts.get? i = some stored) :
    ∃ after, (b.save a true).1.alerts.get? i = some after ∧
      (j = i ∧ after.cursor = a.cursor ∨ j ≠ i ∧ after.cursor = stored.cursor) := by
  rw [save_old id, get?_store]
  by_cases hji : j = i
  · subst hji
    rw [if_pos (beq_self_eq_true j), cursorFor, h]
    exact ⟨_, rfl, .inl ⟨rfl, rfl⟩⟩
  · rw [if_neg (by simpa using hji)]
    exact ⟨stored, h, .inr ⟨hji, rfl⟩⟩

theorem Serves.of_request {c : Call Engine} {r : AlertRequest} (h : b.Serves c b')
    (hc : c.request = .alerts r) : b' = (b.answer r).2 := by
  obtain ⟨q, answer⟩ := c
  obtain rfl : q = .alerts r := hc
  exact (congrArg Prod.snd (h : b.answer r = (answer, b'))).symm

theorem Serves.of_not_alerts {c : Call Engine} (h : b.Serves c b')
    (hc : ∀ r, c.request ≠ .alerts r) : b' = b := by
  obtain ⟨q, answer⟩ := c
  cases q with
  | alerts r => exact absurd rfl (hc r)
  | logs | now | notify | evaluating => exact h

/-- A call apart from a move of the cursor of an alert leaves this alert alone. -/
theorem Serves.of_apart {c c' : Call Engine} {a : Alert} {u : Cursor}
    (apart : Evaluator.Apart c c') (hc : c.request = .alerts (.updateCursor a u))
    (id : a.id = some i) (h : b.Serves c' b') : b'.alerts.get? i = b.alerts.get? i := by
  by_cases asks : ∃ r, c'.request = .alerts r
  · obtain ⟨r, hr⟩ := asks
    rw [h.of_request hr]
    rcases apart a u r hc hr with ⟨a', type, data, notifications, time, rfl⟩ | ⟨a', u', rfl, other⟩
    · exact congrArg (Table.get? · i) (alerts_createHistory b a'.id type data notifications time)
    · change (b.updateCursor a'.id u').1.alerts.get? i = _
      cases id' : a'.id with
      | none => rfl
      | some j =>
        have hji : j ≠ i := fun same => other (by rw [id', id, same])
        rw [get?_updateCursor, if_neg (by simpa using hji)]
  · rw [h.of_not_alerts fun r hr => asks ⟨r, hr⟩]

end AlertBook

/-! ### The run -/

namespace Switching

variable {previewChars : Int} {toggled : Nat → Alert} {b b' : AlertBook}
  {before after : List (Deed Party Engine)} {i : Int} {t : Moment}

theorem Interleaved.of_append {ds ds' : List (Deed Party Engine)}
    (h : Interleaved previewChars toggled b (ds ++ ds') b') :
    ∃ b₁, Interleaved previewChars toggled b ds b₁ ∧ Served AlertBook.Serves b₁ ds' b' := by
  obtain ⟨served, tick, toggles⟩ := h
  obtain ⟨b₁, first, last⟩ := served_append.mp served
  refine ⟨b₁, ⟨first, ?_, fun n => ?_⟩, last⟩
  · exact Script.Begins.of_append (callsOf_append ds ds' ▸ tick)
  · exact Script.Begins.of_append (callsOf_append ds ds' ▸ toggles n)

/-- The time is that of the trigger, or a request that spans the trigger read it. -/
def Accounted (before after : List (Deed Party Engine)) (i : Int) (t : Moment)
    (time : Option Moment) : Prop :=
  time = some t ∨
    ∃ n current, Spans before after i n current ∧ time = current.cursor.lastTriggered

theorem Accounted.append {time : Option Moment} (h : Accounted before after i t time)
    (more : List (Deed Party Engine)) : Accounted before (after ++ more) i t time := by
  rcases h with h | ⟨n, current, ⟨id, read, d, hd, enabled⟩, h⟩
  · exact .inl h
  · exact .inr ⟨n, current, ⟨id, read, d, List.mem_append_left more hd, enabled⟩, h⟩

/-- Since the trigger was stored, the times of the last trigger that are stored of the alert or
were read of it are accounted for. -/
structure Since (before after : List (Deed Party Engine)) (i : Int) (t : Moment) (b : AlertBook) :
    Prop where
  stored : ∃ a, b.alerts.get? i = some a ∧ Accounted before after i t a.cursor.lastTriggered
  read : ∀ n current, (∃ d ∈ after, Reads n current d) → current.id = some i →
    Accounted before after i t current.cursor.lastTriggered

/-- The time that a move of the cursor stores. -/
theorem since_stores {c : Call Engine} (stores : c.Stores i t) (h : b.Serves c b') :
    Since before [] i t b' := by
  obtain ⟨a, u, moved, rfl, id, triggered⟩ := stores
  have answered : (b.updateCursor a.id u).swap = (.ok moved, b') := h
  rw [id] at answered
  cases hi : b.alerts.get? i with
  | none =>
    rw [AlertBook.updateCursor, Option.bind_some, hi] at answered
    cases (Prod.mk.inj answered).1
  | some stored =>
    rw [AlertBook.updateCursor_ok hi] at answered
    obtain rfl := (Prod.mk.inj answered).2
    refine ⟨⟨_, Table.get?_put_self .., .inl ?_⟩, ?_⟩
    · rw [Cursor.lastTriggered_advance, triggered]
      rfl
    · rintro n current ⟨d, hd, -⟩
      cases hd

theorem Since.next {b₁ : AlertBook} {d : Deed Party Engine} (since : Since before after i t b₁)
    (stored : ∀ a, b₁.alerts.get? i = some a → ∃ a', b'.alerts.get? i = some a' ∧
      (a'.cursor = a.cursor ∨ Accounted before (after ++ [d]) i t a'.cursor.lastTriggered))
    (read : ∀ n current, Reads n current d → current.id = some i → ∃ a,
      b₁.alerts.get? i = some a ∧ current.cursor = a.cursor) :
    Since before (after ++ [d]) i t b' := by
  obtain ⟨a, ha, accounted⟩ := since.stored
  refine ⟨?_, ?_⟩
  · obtain ⟨a', ha', same | accounted'⟩ := stored a ha
    · exact ⟨a', ha', same ▸ accounted.append [d]⟩
    · exact ⟨a', ha', accounted'⟩
  · rintro n current ⟨d', hd', reads⟩ id
    rcases List.mem_append.mp hd' with hd' | hd'
    · exact (since.read n current ⟨d', hd', reads⟩ id).append [d]
    · obtain rfl := List.mem_singleton.mp hd'
      obtain ⟨a', ha', same⟩ := read n current reads id
      obtain rfl := Option.some.inj (ha.symm.trans ha')
      exact same ▸ accounted.append [d']

/-- A request reads the alert as it is stored. -/
theorem Since.of_get {b₁ : AlertBook} {n : Nat} {c : Call Engine} {id : Option Int}
    (since : Since before after i t b₁) (hb₁ : b₁.Keyed) (hc : c.request = .alerts (.get id))
    (h : b₁.Serves c b') : Since before (after ++ [⟨.toggle n, c⟩]) i t b' := by
  obtain rfl : b' = b₁ := h.of_request hc
  refine since.next (fun a ha => ⟨a, ha, .inl rfl⟩) ?_
  rintro m current ⟨id', hd⟩ hid
  obtain ⟨-, rfl⟩ := Deed.mk.inj hd
  obtain ⟨j, a, hj, ha, same⟩ := hb₁.of_get (Except.ok.inj (Prod.mk.inj h).1)
  obtain rfl := Option.some.inj (hj.symm.trans hid)
  exact ⟨a, ha, same⟩

/-- A request stores what it read: disabled, with the cursor left alone, or enabled, with the
cursor that it read. -/
theorem Since.of_save {b₁ : AlertBook} {n : Nat} {c : Call Engine} {current : Alert} {j : Int}
    {r : AlertRequest} (since : Since before after i t b₁) (id : current.id = some j)
    (hread : ∃ d ∈ before ++ after, Reads n current d) (hc : c.request = .alerts r)
    (hr : r = .save (Service.switched current false current.cursor) false ∨
      ∃ newest, r = .save
        (Service.switched current true { current.cursor with lastSeen := newest }) true)
    (h : b₁.Serves c b') : Since before (after ++ [⟨.toggle n, c⟩]) i t b' := by
  have hb' := h.of_request hc
  obtain ⟨q, answer⟩ := c
  obtain rfl : q = .alerts r := hc
  refine since.next (fun a ha => ?_) ?_
  · rcases hr with rfl | ⟨newest, rfl⟩
    · obtain ⟨a', ha', same⟩ :=
        AlertBook.cursor_save (a := Service.switched current false current.cursor) id ha
      exact ⟨a', hb' ▸ ha', .inl same⟩
    · obtain ⟨a', ha', ⟨rfl, same⟩ | ⟨-, same⟩⟩ := AlertBook.cursor_reset
        (a := Service.switched current true { current.cursor with lastSeen := newest }) id ha
      · refine ⟨a', hb' ▸ ha', .inr ?_⟩
        obtain ⟨d, hd, reads⟩ := hread
        rw [same]
        rcases List.mem_append.mp hd with hd | hd
        · exact .inr ⟨n, current, ⟨id, ⟨d, hd, reads⟩, _,
            List.mem_append_right after List.mem_cons_self, newest, answer, rfl⟩, rfl⟩
        · exact (since.read n current ⟨d, hd, reads⟩ id).append _
      · exact ⟨a', hb' ▸ ha', .inl same⟩
  · rintro m x ⟨id', hd⟩ -
    rcases hr with rfl | ⟨newest, rfl⟩ <;> cases hd

/-- A call that asks the alert store for nothing changes nothing. -/
theorem Since.of_not_alerts {b₁ : AlertBook} {d : Deed Party Engine}
    (since : Since before after i t b₁) (hc : ∀ r, d.call.request ≠ .alerts r)
    (h : b₁.Serves d.call b') : Since before (after ++ [d]) i t b' := by
  obtain rfl := h.of_not_alerts hc
  refine since.next (fun a ha => ⟨a, ha, .inl rfl⟩) ?_
  rintro m x ⟨id', rfl⟩
  exact absurd rfl (hc _)

/-- After a tick has stored the time of a trigger, each further call keeps it accounted for. -/
theorem Interleaved.since {c : Call Engine}
    (h : Interleaved previewChars toggled b (before ++ ⟨.tick, c⟩ :: after) b') (hb : b.Keyed)
    (stores : c.Stores i t) : Since before after i t b' := by
  induction after using List.reverseRecOn generalizing b' with
  | nil =>
    obtain ⟨b₁, -, served⟩ := h.of_append
    obtain ⟨b₂, serves, last⟩ := served_cons.mp served
    obtain rfl := served_nil.mp last
    exact since_stores stores serves
  | append_singleton after d ih =>
    rw [← List.cons_append, ← List.append_assoc] at h
    obtain ⟨b₁, first, served⟩ := h.of_append
    obtain ⟨b₂, serves, last⟩ := served_cons.mp served
    obtain rfl := served_nil.mp last
    have since := ih first
    obtain ⟨hb₁, keyed⟩ := first.served.invariant (fun _ _ _ => AlertBook.Keyed.serves) hb
    by_cases asks : ∃ r, d.call.request = .alerts r
    · obtain ⟨r, hr⟩ := asks
      obtain ⟨party, c'⟩ := d
      cases party with
      | tick =>
        -- the tick does not come back to the alert
        obtain ⟨a, u, moved, rfl, id, -⟩ := stores
        have begins := h.tick
        rw [callsOf_append, callsOf_append, callsOf_cons_self, callsOf_cons_self,
          List.append_assoc, List.cons_append] at begins
        have apart := Evaluator.apart_of_begins begins rfl
          (fun loaded hloaded => by
            obtain ⟨s, s', hs, answered⟩ :=
              keyed _ (List.mem_append_left _ (mem_callsOf.mp hloaded))
            obtain rfl := Except.ok.inj (Prod.mk.inj answered).1
            exact Evaluator.nodup_listEnabled hs) c' (by simp)
        refine since.next (fun a ha => ⟨a, ?_, .inl rfl⟩) ?_
        · rw [serves.of_apart apart rfl id, ha]
        · rintro m x ⟨id', hd⟩
          cases hd
      | toggle n =>
        have begins := h.toggles n
        rw [callsOf_append, callsOf_cons_self] at begins
        rcases cases_toggleAlert begins hr with ⟨id, rfl⟩ | ⟨id, current, hread, hsave⟩
        · exact since.of_get hb₁ hr serves
        · have hdeed := mem_callsOf.mp hread
          obtain ⟨s, s', hs, answered⟩ := keyed _ hdeed
          obtain ⟨j, -, hj, -, -⟩ := hs.of_get (Except.ok.inj (Prod.mk.inj answered).1)
          exact since.of_save hj ⟨_, by simpa using hdeed, id, rfl⟩ hr hsave serves
    · exact since.of_not_alerts (fun r hr => asks ⟨r, hr⟩) serves

/-- **Once a tick has stored the time of a trigger**, it stays the time of the last trigger of the
alert, whatever calls come after it, unless a request that read the alert before enables it
afterwards: then the alert has the time that the request read. -/
theorem Interleaved.lastTriggered {c : Call Engine}
    (h : Interleaved previewChars toggled b (before ++ ⟨.tick, c⟩ :: after) b') (hb : b.Reachable)
    (stores : c.Stores i t) :
    ∃ a, b'.alerts.get? i = some a ∧ (a.cursor.lastTriggered = some t ∨
      ∃ n current, Spans before after i n current ∧
        a.cursor.lastTriggered = current.cursor.lastTriggered) :=
  (h.since hb.keyed stores).stored

end Switching

namespace Sample

open Switching

/-- An alert that is disabled. -/
def dozing : Alert :=
  { alert with id := some 1, settings := { alert.settings with enabled := .bool false } }

/-- A world with the alert. -/
def quiet : World where
  book := (AlertBook.empty.answer (.save { dozing with id := none } true)).2
  logs := .empty
  clock := noon

/-- The alert was enabled, and then a record comes in that answers its query. -/
def roused : World where
  book := (quiet.run World.silent (Service.toggleAlert dozing)).2.book
  logs := (LogStore.empty.append "app" "an error" "error" noon []).1
  clock := noon

/-- The alert as a request enables it that read it before. -/
def late : Alert :=
  Service.switched dozing true { dozing.cursor with lastSeen := some 1 }

/-- The calls of the tick. -/
def tickCalls : List (Call Engine) :=
  (Evaluator.tick 200).calls (I := Engine) (World.answer World.silent) roused

/-- One request reads the alert, and another one enables it. -/
def early : List (Deed Party Engine) :=
  ⟨.toggle 0, ⟨.alerts (.get (some 1)), .ok (some dozing)⟩⟩ ::
    ((Service.toggleAlert dozing).calls (I := Engine) (World.answer World.silent) quiet).map
      (Deed.mk (.toggle 1))

/-- The book after the tick. -/
def ticked : AlertBook :=
  (roused.run World.silent (Evaluator.tick 200)).2.book

/-- The request that read the alert first enables it at last. -/
def final : List (Deed Party Engine) :=
  [⟨.toggle 0, ⟨.logs .maxId, .ok (some 1)⟩⟩,
    ⟨.toggle 0, ⟨.alerts (.save late true), .ok (some (ticked.save late true).2)⟩⟩]

/-- The tick comes between the two calls of a request. -/
theorem interleaved :
    Interleaved 200 (fun _ => dozing) quiet.book (early ++ tickCalls.map (Deed.mk Party.tick) ++ final)
      (ticked.save late true).1 where
  served := by
    have first : Served AlertBook.Serves quiet.book early roused.book :=
      .cons rfl (served_run (World.serves_answer World.silent) (Party.toggle 1) _ quiet)
    have second : Served AlertBook.Serves roused.book (tickCalls.map (Deed.mk Party.tick)) ticked :=
      served_run (World.serves_answer World.silent) Party.tick _ roused
    exact (first.append second).append (.cons rfl (.cons rfl (.nil _)))
  tick := by
    have calls : callsOf .tick (early ++ tickCalls.map (Deed.mk Party.tick) ++ final) = tickCalls := by
      simp [early, final, callsOf_cons_of_ne, callsOf_map_self, callsOf_map_of_ne]
    rw [calls]
    exact (Script.makes_calls _ _ _).begins
  toggles := by
    intro n
    match n with
    | 0 =>
      have calls : callsOf (.toggle 0) (early ++ tickCalls.map (Deed.mk Party.tick) ++ final) =
          ([⟨.alerts (.get (some 1)), .ok (some dozing)⟩, ⟨.logs .maxId, .ok (some 1)⟩,
            ⟨.alerts (.save late true), .ok (some (ticked.save late true).2)⟩] :
              List (Call Engine)) := by
        simp [early, final, callsOf_cons_self, callsOf_map_of_ne]
      rw [calls]
      exact Script.Makes.begins (.ask (.ask (.ask (.done _))))
    | 1 =>
      have calls : callsOf (.toggle 1) (early ++ tickCalls.map (Deed.mk Party.tick) ++ final) =
          (Service.toggleAlert dozing).calls (I := Engine) (World.answer World.silent) quiet := by
        simp [early, final, callsOf_cons_of_ne, callsOf_map_self, callsOf_map_of_ne]
      rw [calls]
      exact (Script.makes_calls _ _ _).begins
    | n + 2 =>
      have calls : callsOf (.toggle (n + 2)) (early ++ tickCalls.map (Deed.mk Party.tick) ++ final) =
          [] := by
        simp [early, final, callsOf_cons_of_ne, callsOf_map_of_ne]
      rw [calls]
      exact Script.begins_nil _

/-- The tick stores the time of a trigger. -/
theorem exists_stores : ∃ pre c post, tickCalls = pre ++ c :: post ∧ c.Stores 1 noon := by
  obtain ⟨c, hc, stores⟩ : ∃ c ∈ tickCalls, c.Stores 1 noon := by decide +kernel
  obtain ⟨pre, post, calls⟩ := List.append_of_mem hc
  exact ⟨pre, c, post, calls, stores⟩

/-- The deeds around the call with which the tick stores the time of the trigger. -/
theorem exists_interleaved : ∃ before c after,
    Interleaved 200 (fun _ => dozing) quiet.book (before ++ ⟨.tick, c⟩ :: after)
      (ticked.save late true).1 ∧ c.Stores 1 noon := by
  obtain ⟨pre, c, post, calls, stores⟩ := exists_stores
  refine ⟨early ++ pre.map (Deed.mk .tick), c, post.map (Deed.mk .tick) ++ final, ?_, stores⟩
  have h := interleaved
  rw [calls] at h
  simpa using h

end Sample

namespace Switching

open Sample in
theorem Interleaved.lastTriggered_of_sample :
    quiet.book.Reachable ∧ ∃ before c after,
      Interleaved 200 (fun _ => dozing) quiet.book (before ++ ⟨.tick, c⟩ :: after)
        (ticked.save late true).1 ∧ c.Stores 1 noon ∧
      ∃ a, (ticked.save late true).1.alerts.get? 1 = some a ∧
        (a.cursor.lastTriggered = some noon ∨ ∃ n current, Spans before after 1 n current ∧
          a.cursor.lastTriggered = current.cursor.lastTriggered) := by
  have book : quiet.book.Reachable := .answer .empty _
  obtain ⟨before, c, after, interleaved, stores⟩ := exists_interleaved
  exact ⟨book, before, c, after, interleaved, stores, interleaved.lastTriggered book stores⟩

open Sample in
/-- A tick that has stored the time of a trigger may lose it: a request that read the alert before
enables it with the cursor that it read. -/
theorem reenabling_loses_trigger :
    ¬∀ (previewChars : Int) (toggled : Nat → Alert) (b b' : AlertBook)
      (before after : List (Deed Party Engine)) (c : Call Engine) (i : Int) (t : Moment),
      b.Reachable → Interleaved previewChars toggled b (before ++ ⟨.tick, c⟩ :: after) b' →
      c.Stores i t → ∃ a time, b'.alerts.get? i = some a ∧ a.cursor.lastTriggered = some time ∧
        t.instant ≤ time.instant := by
  intro kept
  obtain ⟨before, c, after, interleaved, stores⟩ := exists_interleaved
  obtain ⟨a, time, ha, htime, -⟩ :=
    kept 200 _ _ _ before after c 1 noon (.answer .empty _) interleaved stores
  have lost : ((ticked.save late true).1.alerts.get? 1).bind (·.cursor.lastTriggered) = none := by
    decide +kernel
  rw [ha, Option.bind_some, htime] at lost
  cases lost

end Switching

end LogAlert
