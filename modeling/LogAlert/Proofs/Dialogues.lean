import Mathlib.Data.List.Induction
import LogAlert.Proofs.Calls

/-!
# Dialogues

A dialogue is any sequence of requests to something that answers them and keeps a state, each
request with the answer that it got.  What holds in the end is often what happened last: that
something was done, and nothing since has undone it.

## Main definitions

* `Since` : something happened, and nothing after it was of some other kind.
* `Dialogue` : the dialogues, with the states that they lead to.
* `exchange` : the dialogue that a list of requests comes to, to be evaluated.

## Main results

* `since_append_singleton`, `since_append` : what holds after more events.
* `Dialogue.exchange` : a dialogue may go on with any requests.
-/

namespace LogAlert

/-! ### What happened last -/

section Since

variable {α : Type} {P P' Q : α → Prop} {past : List α} {x : α}

/-- One of the events satisfies `P`, and none after it satisfies `Q`. -/
def Since (P Q : α → Prop) (past : List α) : Prop :=
  ∃ before x after, past = before ++ x :: after ∧ P x ∧ ∀ y ∈ after, ¬Q y

theorem not_since_nil : ¬Since P Q [] := by
  rintro ⟨before, x, after, split, -⟩
  exact List.append_ne_nil_of_right_ne_nil before (List.cons_ne_nil x after) split.symm

/-- After one more event: the event satisfies `P`, or an earlier one does and the event not `Q`. -/
theorem since_append_singleton : Since P Q (past ++ [x]) ↔ P x ∨ Since P Q past ∧ ¬Q x := by
  constructor
  · rintro ⟨before, y, after, split, holds, kept⟩
    rcases List.eq_nil_or_concat after with rfl | ⟨after, z, rfl⟩
    · obtain ⟨-, last⟩ := List.append_inj' split rfl
      obtain rfl := List.singleton_inj.mp last
      exact .inl holds
    · rw [List.concat_eq_append, ← List.cons_append, ← List.append_assoc] at split
      obtain ⟨rfl, last⟩ := List.append_inj' split rfl
      obtain rfl := List.singleton_inj.mp last
      rw [List.concat_eq_append] at kept
      exact .inr ⟨⟨before, y, after, rfl, holds, fun y' h => kept y' (List.mem_append_left _ h)⟩,
        kept _ (List.mem_append_right _ List.mem_cons_self)⟩
  · rintro (holds | ⟨⟨before, y, after, rfl, holds, kept⟩, last⟩)
    · exact ⟨past, x, [], rfl, holds, List.forall_mem_nil _⟩
    · refine ⟨before, y, after ++ [x], by simp, holds, fun y' h => ?_⟩
      rcases List.mem_append.mp h with h | h
      · exact kept y' h
      · exact List.mem_singleton.mp h ▸ last

/-- After more events: it happened among them, or before and none of them is of the other kind. -/
theorem since_append {more : List α} :
    Since P Q (past ++ more) ↔ Since P Q more ∨ Since P Q past ∧ ∀ y ∈ more, ¬Q y := by
  induction more using List.reverseRecOn with
  | nil => simp [not_since_nil]
  | append_singleton more x ih =>
    rw [← List.append_assoc, since_append_singleton, since_append_singleton, ih,
      List.forall_mem_append, List.forall_mem_singleton]
    tauto

theorem Since.imp (h : Since P Q past) (imp : ∀ x ∈ past, P x → P' x) : Since P' Q past := by
  obtain ⟨before, x, after, split, holds, kept⟩ := h
  have hmem : x ∈ past := split ▸ List.mem_append_right before List.mem_cons_self
  exact ⟨before, x, after, split, imp x hmem holds, kept⟩

end Since

/-! ### Requests and answers -/

section Dialogues

variable {I : Interface} {σ : Type}
  {answer : (r : I.Request) → σ → Except Failure (I.Answer r) × σ} {start : σ}

/-- The calls that were made, from the start on, and the state that they lead to. -/
inductive Dialogue (answer : (r : I.Request) → σ → Except Failure (I.Answer r) × σ) (start : σ) :
    List (Call I) → σ → Prop where
  | start : Dialogue answer start [] start
  | next {past : List (Call I)} {s : σ} (dialogue : Dialogue answer start past s) (r : I.Request) :
      Dialogue answer start (past ++ [⟨r, (answer r s).1⟩]) (answer r s).2

/-- The calls that requests come to, one after the other, and the state after them. -/
def exchange (answer : (r : I.Request) → σ → Except Failure (I.Answer r) × σ) :
    List I.Request → σ → List (Call I) × σ
  | [], s => ([], s)
  | r :: rs, s => (⟨r, (answer r s).1⟩ :: (exchange answer rs (answer r s).2).1,
      (exchange answer rs (answer r s).2).2)

/-- The state after requests. -/
theorem snd_exchange (rs : List I.Request) (s : σ) :
    (exchange answer rs s).2 = rs.foldl (fun s r => (answer r s).2) s := by
  induction rs generalizing s with
  | nil => rfl
  | cons r rs ih => exact ih _

/-- A dialogue may go on with any requests. -/
theorem Dialogue.exchange {past : List (Call I)} {s : σ} (dialogue : Dialogue answer start past s)
    (rs : List I.Request) :
    Dialogue answer start (past ++ (exchange answer rs s).1) (exchange answer rs s).2 := by
  induction rs generalizing past s with
  | nil => rwa [LogAlert.exchange, List.append_nil]
  | cons r rs ih =>
    rw [LogAlert.exchange, List.append_cons]
    exact ih (dialogue.next r)

theorem dialogue_exchange (rs : List I.Request) :
    Dialogue answer start (exchange answer rs start).1 (exchange answer rs start).2 :=
  Dialogue.start.exchange rs

end Dialogues

end LogAlert
