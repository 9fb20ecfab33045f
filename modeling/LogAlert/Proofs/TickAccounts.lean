import LogAlert.Engine.Scheduler
import LogAlert.Proofs.Calls

/-!
# The accounts of the scheduler

The scheduler runs ticks for as long as it is asked to, whatever becomes of them.  A tick may fail
and may report that the alerts could not be loaded; the callbacks may fail too.  None of this ends
the series, and every callback is told of every tick.  The two counts differ on a tick that could
not load the alerts: it went through, and it is a failure.

## Main definitions

* `Scheduler.FailedTick` : the ticks that count as failures.
* `Scheduler.Tally` : the counts that belong to a series of ticks.
* `Scheduler.Turn` : a tick with what its callbacks come to.
* `Scheduler.runs` : ticks one after the other.

## Main results

* `Scheduler.Tally.record` : a further tick keeps the tally.
* `Scheduler.makes_runOnce` : what a tick with its callbacks asks for, and how it ends.
* `Scheduler.makes_runs` : the same for ticks one after the other.
-/

namespace LogAlert.Scheduler

/-! ### The counts -/

/-- A tick counts as a failure if it fails, or reports that the alerts could not be loaded. -/
def FailedTick : Except Failure TickReport → Prop
  | .error _ => True
  | .ok report => report.loadError.isSome

/-- The counts after a series of ticks: how many of them did not fail, and how many failures there
are at its end, one after the other. -/
structure Tally (past : List (Except Failure TickReport)) (s : Scheduler) : Prop where
  ticks_eq : s.ticks = past.countP (·.isOk)
  failing : ∃ tail, tail <:+ past ∧ (∀ t ∈ tail, FailedTick t) ∧ tail.length = s.failures
  longest : ∀ tail, tail <:+ past → (∀ t ∈ tail, FailedTick t) → tail.length ≤ s.failures

variable {past : List (Except Failure TickReport)} {t : Except Failure TickReport}
  {s s' : Scheduler} {n : Nat}

theorem tally_start : Tally [] start where
  ticks_eq := rfl
  failing := ⟨[], List.nil_suffix, List.forall_mem_nil _, rfl⟩
  longest tail h _ := by rw [List.suffix_nil.mp h]; exact Nat.le_refl 0

/-- There is one tally of a series. -/
theorem Tally.unique (h : Tally past s) (h' : Tally past s') : s = s' := by
  obtain ⟨tail, hsuffix, fails, hlength⟩ := h.failing
  obtain ⟨tail', hsuffix', fails', hlength'⟩ := h'.failing
  have hle : s.failures ≤ s'.failures := hlength ▸ h'.longest tail hsuffix fails
  have hge : s'.failures ≤ s.failures := hlength' ▸ h.longest tail' hsuffix' fails'
  have hticks : s.ticks = s'.ticks := h.ticks_eq.trans h'.ticks_eq.symm
  cases s
  cases s'
  cases hticks
  cases Nat.le_antisymm hle hge
  rfl

theorem failures_record_of_failed (failed : FailedTick t) :
    (s.record t).failures = s.failures + 1 := by
  cases t with
  | error e => rfl
  | ok report => exact if_pos failed

theorem failures_record_of_clean (clean : ¬FailedTick t) : (s.record t).failures = 0 := by
  cases t with
  | error e => exact absurd trivial clean
  | ok report => exact if_neg clean

theorem ticks_record : (s.record t).ticks = s.ticks + if t.isOk then 1 else 0 := by
  cases t <;> rfl

/-- **A further tick keeps the tally.**  A failure extends the failures at the end, and any other
tick leaves none there. -/
theorem Tally.record (h : Tally past s) (t : Except Failure TickReport) :
    Tally (past ++ [t]) (s.record t) where
  ticks_eq := by
    rw [ticks_record, h.ticks_eq, List.countP_append, List.countP_singleton]
  failing := by
    by_cases failed : FailedTick t
    · obtain ⟨tail, hsuffix, fails, hlength⟩ := h.failing
      refine ⟨tail ++ [t], List.suffix_concat_iff.mpr (.inr ⟨tail, rfl, hsuffix⟩), ?_, ?_⟩
      · exact List.forall_mem_append.mpr ⟨fails, List.forall_mem_singleton.mpr failed⟩
      · rw [List.length_append, hlength, failures_record_of_failed failed, List.length_singleton]
    · exact ⟨[], List.nil_suffix, List.forall_mem_nil _, (failures_record_of_clean failed).symm⟩
  longest tail hsuffix fails := by
    rcases List.suffix_concat_iff.mp hsuffix with rfl | ⟨tail, rfl, earlier⟩
    · exact Nat.zero_le _
    · obtain ⟨fails, failed⟩ := List.forall_mem_append.mp fails
      rw [failures_record_of_failed (List.forall_mem_singleton.mp failed), List.length_append]
      exact Nat.succ_le_succ (h.longest tail earlier fails)

/-- A tick that could not load the alerts went through, and is a failure. -/
example (e : Failure) (report : TickReport) (reason : String) :
    (start.record (.error e)).record (.ok { report with loadError := some reason }) = ⟨1, 2⟩ :=
  rfl

/-! ### One tick -/

/-- What a tick comes to, and what its callbacks come to, in the order of their registration. -/
structure Turn where
  tick : Except Failure TickReport
  told : List (Except Failure Unit)

/-- A callback is told of a tick. -/
def tell (counts : Scheduler) (report : Option TickReport) (callback : Nat)
    (answer : Except Failure Unit) : Call Scheduling :=
  ⟨.call callback counts report, answer⟩

namespace Turn

/-- The report of the tick, if it did not fail. -/
def report (turn : Turn) : Option TickReport :=
  turn.tick.toOption

/-- The calls of a tick with these counts after it: the tick, and then each callback once, in order,
with the report of the tick. -/
def calls (turn : Turn) (counts : Scheduler) : List (Call Scheduling) :=
  ⟨.tick, turn.tick⟩ ::
    List.zipWith (tell counts turn.report) (List.range turn.told.length) turn.told

end Turn

variable {calls : List (Call Scheduling)}

/-- **The callbacks are told** one after the other, whatever they answer. -/
theorem makes_callEach {counts : Scheduler} {report : Option TickReport} {callbacks : List Nat}
    {result : Except Failure Unit} :
    (callEach counts report callbacks).Makes calls result ↔
      ∃ told : List (Except Failure Unit), told.length = callbacks.length ∧
        calls = List.zipWith (tell counts report) callbacks told ∧ result = .ok () := by
  induction callbacks generalizing calls with
  | nil =>
    rw [callEach, Script.makes_pure]
    constructor
    · rintro ⟨rfl, rfl⟩
      exact ⟨[], rfl, rfl, rfl⟩
    · rintro ⟨told, -, rfl, rfl⟩
      exact ⟨rfl, rfl⟩
  | cons callback callbacks ih =>
    rw [callEach, Script.makes_attempt_bind]
    constructor
    · rintro ⟨answer, rest, rfl, made⟩
      obtain ⟨told, hlength, rfl, rfl⟩ := ih.mp made
      exact ⟨answer :: told, congrArg Nat.succ hlength, rfl, rfl⟩
    · rintro ⟨told, hlength, rfl, rfl⟩
      obtain ⟨answer, told, rfl⟩ := List.exists_cons_of_length_eq_add_one hlength
      exact ⟨answer, _, rfl, ih.mpr ⟨told, Nat.succ.inj hlength, rfl, rfl⟩⟩

/-- **A tick with its callbacks** never fails.  Whatever the tick and the callbacks come to, the
tick is counted, and every callback is told once of it. -/
theorem makes_runOnce {result : Except Failure (Scheduler × Option TickReport)} :
    (s.runOnce n).Makes calls result ↔
      ∃ turn : Turn, turn.told.length = n ∧ calls = turn.calls (s.record turn.tick) ∧
        result = .ok (s.record turn.tick, turn.report) := by
  rw [runOnce, Script.makes_attempt_bind]
  constructor
  · rintro ⟨answer, rest, rfl, made⟩
    rcases Script.makes_bind.mp made with ⟨e, fails, -⟩ | ⟨_, _, _, tells, last, rfl⟩
    · obtain ⟨_, -, -, ⟨⟩⟩ := makes_callEach.mp fails
    obtain ⟨told, hlength, rfl, -⟩ := makes_callEach.mp tells
    obtain ⟨rfl, rfl⟩ := Script.makes_pure.mp last
    rw [List.length_range] at hlength
    subst hlength
    rw [List.append_nil]
    exact ⟨⟨answer, told⟩, rfl, rfl, rfl⟩
  · rintro ⟨⟨answer, told⟩, rfl, rfl, rfl⟩
    have tells : (callEach (s.record answer) answer.toOption (List.range told.length)).Makes
        (List.zipWith (tell (s.record answer) answer.toOption) (List.range told.length) told)
        (.ok ()) :=
      makes_callEach.mpr ⟨told, List.length_range.symm, rfl, rfl⟩
    exact ⟨answer, _, rfl, Script.makes_bind.mpr (.inr ⟨(), _, [], tells,
      Script.makes_pure.mpr ⟨rfl, rfl⟩, (List.append_nil _).symm⟩)⟩

/-! ### Ticks one after the other -/

/-- Runs ticks one after the other, with so many callbacks at each, and keeps the counts and the
report of each. -/
def runs (s : Scheduler) : List Nat → Script Scheduling (List (Scheduler × Option TickReport))
  | [] => pure []
  | n :: ns => do
    let turn ← s.runOnce n
    let turns ← runs turn.1 ns
    pure (turn :: turns)

/-- Turns with the counts after each of them, which are the tally of the ticks up to there and of
those before. -/
def Accounted (past : List (Except Failure TickReport)) (turns : List (Turn × Scheduler)) : Prop :=
  ∀ k (h : k < turns.length), Tally (past ++ (turns.take (k + 1)).map (·.1.tick)) turns[k].2

theorem accounted_cons {turn : Turn} {turns : List (Turn × Scheduler)} (h : Tally past s) :
    Accounted past ((turn, s') :: turns) ↔
      s' = s.record turn.tick ∧ Accounted (past ++ [turn.tick]) turns := by
  constructor
  · intro accounted
    refine ⟨(accounted 0 (Nat.succ_pos _)).unique (h.record turn.tick), fun k hk => ?_⟩
    have later := accounted (k + 1) (Nat.succ_lt_succ hk)
    rwa [List.take_succ_cons, List.map_cons, List.append_cons] at later
  · rintro ⟨rfl, accounted⟩ k hk
    cases k with
    | zero => exact h.record turn.tick
    | succ k =>
      rw [List.take_succ_cons, List.map_cons, List.append_cons]
      exact accounted k (Nat.lt_of_succ_lt_succ hk)

/-- What ticks come to, one after the other, if there were others before. -/
theorem makes_runs_after (h : Tally past s) {callbacks : List Nat}
    {result : Except Failure (List (Scheduler × Option TickReport))} :
    (s.runs callbacks).Makes calls result ↔
      ∃ turns : List (Turn × Scheduler), turns.map (·.1.told.length) = callbacks ∧
        Accounted past turns ∧ calls = turns.flatMap (fun turn => turn.1.calls turn.2) ∧
        result = .ok (turns.map fun turn => (turn.2, turn.1.report)) := by
  induction callbacks generalizing past s calls result with
  | nil =>
    rw [runs, Script.makes_pure]
    constructor
    · rintro ⟨rfl, rfl⟩
      exact ⟨[], rfl, nofun, rfl, rfl⟩
    · rintro ⟨turns, hlength, -, rfl, rfl⟩
      obtain rfl := List.map_eq_nil_iff.mp hlength
      exact ⟨rfl, rfl⟩
  | cons n ns ih =>
    rw [runs, Script.makes_bind]
    constructor
    · rintro (⟨e, fails, -⟩ | ⟨_, _, _, first, next, rfl⟩)
      · obtain ⟨_, -, -, ⟨⟩⟩ := makes_runOnce.mp fails
      obtain ⟨turn, rfl, rfl, ⟨⟩⟩ := makes_runOnce.mp first
      rcases Script.makes_bind.mp next with ⟨e, fails, -⟩ | ⟨_, _, _, others, last, rfl⟩
      · obtain ⟨_, -, -, -, ⟨⟩⟩ := (ih (h.record turn.tick)).mp fails
      obtain ⟨turns, rfl, accounted, rfl, ⟨⟩⟩ := (ih (h.record turn.tick)).mp others
      obtain ⟨rfl, rfl⟩ := Script.makes_pure.mp last
      rw [List.append_nil]
      exact ⟨(turn, s.record turn.tick) :: turns, rfl, (accounted_cons h).mpr ⟨rfl, accounted⟩, rfl,
        rfl⟩
    · rintro ⟨turns, hlength, accounted, rfl, rfl⟩
      obtain ⟨⟨turn, s'⟩, turns, rfl, rfl, rfl⟩ := List.map_eq_cons_iff.mp hlength
      obtain ⟨rfl, later⟩ := (accounted_cons h).mp accounted
      have others := (ih (h.record turn.tick)).mpr ⟨turns, rfl, later, rfl, rfl⟩
      exact .inr ⟨_, _, _, makes_runOnce.mpr ⟨turn, rfl, rfl, rfl⟩, Script.makes_bind.mpr
        (.inr ⟨_, _, [], others, Script.makes_pure.mpr ⟨rfl, rfl⟩, (List.append_nil _).symm⟩), rfl⟩

/-- **The scheduler keeps account of its ticks**, however many it runs and whatever they and the
callbacks come to.  The series never ends early: each tick has its report, or none if the tick
failed.  After each the counts are the tally of the ticks so far.  Each tick is asked for once, and
then every callback that there is at it is told of it once, in order, with its report. -/
theorem makes_runs (callbacks : List Nat) (calls : List (Call Scheduling))
    (result : Except Failure (List (Scheduler × Option TickReport))) :
    (start.runs callbacks).Makes calls result ↔
      ∃ turns : List (Turn × Scheduler), turns.map (·.1.told.length) = callbacks ∧
        (∀ k (h : k < turns.length),
          Tally ((turns.take (k + 1)).map (·.1.tick)) turns[k].2) ∧
        calls = turns.flatMap (fun turn => turn.1.calls turn.2) ∧
        result = .ok (turns.map fun turn => (turn.2, turn.1.report)) :=
  makes_runs_after tally_start

end LogAlert.Scheduler
