import LogAlert.Proofs.Calls

/-!
# Interleaved calls

Several parties call the same surroundings, each with a script of its own.  The calls of one party
may come between those of another in any way; what each party does is only that its own calls, in
their order, are calls that its script can make.

## Main definitions

* `Deed` : a call with the party that makes it.
* `Served` : the surroundings answer some deeds, and come from one state to another.
* `callsOf` : the calls of one party among those of all.
* `Script.Begins` : the script can begin with these calls.

## Main results

* `Served.invariant` : what every call keeps holds after the deeds and at each of them.
* `served_run` : a party that is alone makes the calls of a run.
* `exists_served_mapList` : scripts that run one after the other are interleaved.
-/

namespace LogAlert

/-- A call with the party that makes it. -/
structure Deed (P : Type) (I : Interface) where
  party : P
  call : Call I

/-- Surroundings that answer calls as `serves` says come by some deeds from one state to
another. -/
inductive Served {P σ : Type} {I : Interface} (serves : σ → Call I → σ → Prop) :
    σ → List (Deed P I) → σ → Prop where
  | nil (s : σ) : Served serves s [] s
  | cons {s s' s'' : σ} {d : Deed P I} {ds : List (Deed P I)} (first : serves s d.call s')
      (rest : Served serves s' ds s'') : Served serves s (d :: ds) s''

/-- The calls of one party, in order. -/
def callsOf {P : Type} [DecidableEq P] {I : Interface} (p : P) (deeds : List (Deed P I)) :
    List (Call I) :=
  (deeds.filter fun d => d.party = p).map Deed.call

/-- The script can begin with these calls. -/
def Script.Begins {I : Interface} {α : Type} (script : Script I α) (calls : List (Call I)) : Prop :=
  ∃ more result, script.Makes (calls ++ more) result

variable {P σ : Type} {I : Interface}

/-! ### The calls of a party -/

section CallsOf

variable [DecidableEq P] {p : P}

@[simp] theorem callsOf_nil : callsOf p ([] : List (Deed P I)) = [] := rfl

@[simp] theorem callsOf_append (ds ds' : List (Deed P I)) :
    callsOf p (ds ++ ds') = callsOf p ds ++ callsOf p ds' := by
  simp [callsOf]

theorem callsOf_cons_self (c : Call I) (ds : List (Deed P I)) :
    callsOf p (⟨p, c⟩ :: ds) = c :: callsOf p ds := by
  simp [callsOf]

theorem callsOf_cons_of_ne {d : Deed P I} (h : d.party ≠ p) (ds : List (Deed P I)) :
    callsOf p (d :: ds) = callsOf p ds := by
  simp [callsOf, h]

/-- A party without deeds makes no calls. -/
theorem callsOf_eq_nil {ds : List (Deed P I)} (h : ∀ d ∈ ds, d.party ≠ p) : callsOf p ds = [] := by
  rw [callsOf, List.filter_eq_nil_iff.mpr fun d hd => by simpa using h d hd, List.map_nil]

theorem mem_callsOf {c : Call I} {ds : List (Deed P I)} : c ∈ callsOf p ds ↔ ⟨p, c⟩ ∈ ds := by
  rw [callsOf, List.mem_map]
  constructor
  · rintro ⟨⟨q, c⟩, hd, rfl⟩
    obtain ⟨hd, hq⟩ := List.mem_filter.mp hd
    rwa [← of_decide_eq_true hq]
  · intro h
    exact ⟨⟨p, c⟩, List.mem_filter.mpr ⟨h, decide_eq_true rfl⟩, rfl⟩

/-- A party that is alone makes all calls. -/
theorem callsOf_map_self (calls : List (Call I)) : callsOf p (calls.map (Deed.mk p)) = calls := by
  induction calls with
  | nil => rfl
  | cons c calls ih => rw [List.map_cons, callsOf_cons_self, ih]

theorem callsOf_map_of_ne {q : P} (h : q ≠ p) (calls : List (Call I)) :
    callsOf p (calls.map (Deed.mk q)) = [] :=
  callsOf_eq_nil (List.forall_mem_map.mpr fun _ _ => h)

end CallsOf

namespace Script

variable {α : Type} {script : Script I α}

theorem Makes.begins {calls : List (Call I)} {result : Except Failure α}
    (h : script.Makes calls result) : script.Begins calls :=
  ⟨[], result, by rwa [List.append_nil]⟩

theorem begins_nil (script : Script I α) : script.Begins [] := by
  induction script with
  | done result => exact (Makes.done result).begins
  | ask q next ih =>
    obtain ⟨more, result, made⟩ := ih (.error (.of .store ""))
    exact ⟨_, result, .ask made⟩

theorem Begins.of_append {calls more : List (Call I)} (h : script.Begins (calls ++ more)) :
    script.Begins calls := by
  obtain ⟨more', result, made⟩ := h
  exact ⟨more ++ more', result, by rwa [← List.append_assoc]⟩

/-- A script that has ended makes no call. -/
theorem not_begins_done {result : Except Failure α} {pre post : List (Call I)} {c : Call I} :
    ¬(Script.done result : Script I α).Begins (pre ++ c :: post) := by
  rintro ⟨more, ended, made⟩
  have none := (makes_done.mp made).1
  simp at none

/-- A call of a script is its first, or one that it makes after the answer to that. -/
theorem Begins.ask {q : I.Request} {next : Except Failure (I.Answer q) → Script I α}
    {pre post : List (Call I)} {c : Call I} (h : (Script.ask q next).Begins (pre ++ c :: post)) :
    (pre = [] ∧ c.request = q) ∨
      ∃ answer pre', pre = ⟨q, answer⟩ :: pre' ∧ (next answer).Begins (pre' ++ c :: post) := by
  obtain ⟨more, result, made⟩ := h
  obtain ⟨answer, rest, hcalls, hrest⟩ := makes_ask.mp made
  cases pre with
  | nil =>
    obtain ⟨rfl, -⟩ := List.cons.inj hcalls
    exact .inl ⟨rfl, rfl⟩
  | cons first pre =>
    obtain ⟨rfl, rfl⟩ := List.cons.inj hcalls
    exact .inr ⟨answer, pre, rfl, more, result, hrest⟩

end Script

/-! ### What deeds lead to -/

variable {serves : σ → Call I → σ → Prop} {s s' s'' : σ} {ds ds' : List (Deed P I)}

theorem served_nil : Served serves s ([] : List (Deed P I)) s' ↔ s' = s := by
  constructor
  · rintro ⟨⟩
    rfl
  · rintro rfl
    exact .nil _

theorem served_cons {d : Deed P I} :
    Served serves s (d :: ds) s'' ↔ ∃ s', serves s d.call s' ∧ Served serves s' ds s'' := by
  constructor
  · rintro ⟨⟩
    exact ⟨_, ‹_›, ‹_›⟩
  · rintro ⟨s', first, rest⟩
    exact .cons first rest

theorem served_append :
    Served serves s (ds ++ ds') s'' ↔ ∃ s', Served serves s ds s' ∧ Served serves s' ds' s'' := by
  induction ds generalizing s with
  | nil => simp [served_nil]
  | cons d ds ih =>
    simp only [List.cons_append, served_cons, ih]
    constructor
    · rintro ⟨s₁, first, s₂, rest, last⟩
      exact ⟨s₂, ⟨s₁, first, rest⟩, last⟩
    · rintro ⟨s₂, ⟨s₁, first, rest⟩, last⟩
      exact ⟨s₁, first, s₂, rest, last⟩

theorem Served.append (h : Served serves s ds s') (h' : Served serves s' ds' s'') :
    Served serves s (ds ++ ds') s'' :=
  served_append.mpr ⟨s', h, h'⟩

/-- **What every call keeps** holds after the deeds, and at each of them. -/
theorem Served.invariant (h : Served serves s ds s') {Inv : σ → Prop}
    (step : ∀ s c s', Inv s → serves s c s' → Inv s') (hs : Inv s) :
    Inv s' ∧ ∀ d ∈ ds, ∃ s₁ s₂, Inv s₁ ∧ serves s₁ d.call s₂ := by
  induction h with
  | nil s => exact ⟨hs, List.forall_mem_nil _⟩
  | cons first rest ih =>
    obtain ⟨last, at_each⟩ := ih (step _ _ _ hs first)
    exact ⟨last, List.forall_mem_cons.mpr ⟨⟨_, _, hs, first⟩, at_each⟩⟩

/-- **A party that is alone** makes the calls of a run, in surroundings of which those that serve
are a part. -/
theorem served_run {τ α : Type} {view : τ → σ}
    {answer : (r : I.Request) → τ → Except Failure (I.Answer r) × τ}
    (serves_answer : ∀ (q : I.Request) (t : τ),
      serves (view t) ⟨q, (answer q t).1⟩ (view (answer q t).2))
    (p : P) (script : Script I α) (t : τ) :
    Served serves (view t) ((script.calls answer t).map (Deed.mk p))
      (view (script.run answer t).2) := by
  induction script generalizing t with
  | done result => exact .nil _
  | ask q next ih => exact .cons (serves_answer q t) (ih (answer q t).1 (answer q t).2)

/-- **Scripts that run one after the other**, one for each of several items, are interleaved: each
item is a party of its own. -/
theorem exists_served_mapList [DecidableEq P] {τ α β : Type} (view : τ → σ)
    {answer : (r : I.Request) → τ → Except Failure (I.Answer r) × τ}
    (serves_answer : ∀ (q : I.Request) (t : τ),
      serves (view t) ⟨q, (answer q t).1⟩ (view (answer q t).2))
    {f : α → Script I β} (party : α → P) {as : List α} (nodup : (as.map party).Nodup) {t t' : τ}
    {bs : List β} (h : (Script.mapList f as).run answer t = (.ok bs, t')) :
    ∃ deeds : List (Deed P I), Served serves (view t) deeds (view t') ∧
      (∀ d ∈ deeds, d.party ∈ as.map party) ∧
      ∀ a b, (a, b) ∈ as.zip bs → (f a).Makes (callsOf (party a) deeds) (.ok b) := by
  induction as generalizing t bs with
  | nil =>
    obtain ⟨-, rfl⟩ := Prod.mk.inj h
    exact ⟨[], .nil _, List.forall_mem_nil _, fun _ _ mem => absurd mem List.not_mem_nil⟩
  | cons a as ih =>
    obtain ⟨fresh, nodup⟩ := List.nodup_cons.mp nodup
    have first := served_run serves_answer (party a) (f a) t
    have made := Script.makes_calls answer (f a) t
    rw [Script.run_mapList_cons] at h
    generalize (f a).run answer t = ended at first made h
    obtain ⟨_ | b, t₁⟩ := ended
    · cases h
    dsimp only at first made h
    generalize hrest : (Script.mapList f as).run answer t₁ = rest at h
    obtain ⟨_ | bs', t₂⟩ := rest
    · cases h
    obtain ⟨⟨⟩, rfl⟩ := Prod.mk.inj h
    obtain ⟨deeds, served, parties, makes⟩ := ih nodup hrest
    refine ⟨_, first.append served, fun d hd => ?_, fun a' b' mem => ?_⟩
    · rcases List.mem_append.mp hd with hd | hd
      · obtain ⟨c, -, rfl⟩ := List.mem_map.mp hd
        exact List.mem_cons_self
      · exact List.mem_cons_of_mem _ (parties d hd)
    rw [callsOf_append]
    rcases List.mem_cons.mp mem with heq | mem
    · obtain ⟨rfl, rfl⟩ := Prod.mk.inj heq
      have none : ∀ d ∈ deeds, d.party ≠ party a' := fun d hd same => fresh (same ▸ parties d hd)
      rw [callsOf_map_self, callsOf_eq_nil none, List.append_nil]
      exact made
    · have other : party a ≠ party a' := fun same =>
        fresh (same ▸ List.mem_map_of_mem (List.of_mem_zip mem).1)
      rw [callsOf_map_of_ne other, List.nil_append]
      exact makes a' b' mem

end LogAlert
