/-
Module: EventPlus.Library.Budget
Purpose: Potentials: what the steps of a run can bring about altogether, when
  each of them pays for what it brings about.
Trusted boundary: none
Main exports:
  TransitionSystem.Pays, TransitionSystem.run_within_budget,
  TransitionSystem.run_within_count, TransitionSystem.run_without_cost
-/
import EventPlus.Library.TransitionSystem
import Mathlib.Algebra.Order.Ring.Nat

universe u v

namespace TransitionSystem

variable {σ : Type u} {α : Type v}

/-- From the states with `holds`, permitted steps lead to such states again and
raise the potential by no more than their cost. -/
def Pays (system : TransitionSystem σ α) (holds : σ → Prop)
    (permitted : σ → α → Prop) (potential : σ → Nat) (cost : α → Nat) :
    Prop :=
  ∀ before action after, system.Reachable before → holds before →
    permitted before action → system.step before action = some after →
      holds after ∧ potential after ≤ potential before + cost action

variable {system : TransitionSystem σ α} {holds : σ → Prop}
  {permitted : σ → α → Prop} {potential : σ → Nat} {cost : α → Nat}

/-- A run raises the potential by no more than its steps cost together. -/
theorem run_within_budget
    (pays : system.Pays holds permitted potential cost)
    {first last : σ} (reachable : system.Reachable first)
    (start : holds first) {actions : List α}
    (along : system.Along permitted first actions)
    (ran : system.run first actions = some last) :
    potential last ≤ potential first + (actions.map cost).sum := by
  induction actions generalizing first with
  | nil =>
      cases ran
      exact Nat.le_add_right _ _
  | cons action rest inductionHypothesis =>
      obtain ⟨after, taken, remaining⟩ := run_cons ran
      simp only [Along, taken] at along
      obtain ⟨held, paid⟩ :=
        pays first action after reachable start along.1 taken
      have later := inductionHypothesis (.step reachable trivial taken) held
        along.2 remaining
      rw [List.map_cons, List.sum_cons]
      omega

theorem sum_toNat (counted : α → Bool) (actions : List α) :
    (actions.map fun action => (counted action).toNat).sum =
      actions.countP counted := by
  induction actions with
  | nil => rfl
  | cons action rest inductionHypothesis =>
      rw [List.map_cons, List.sum_cons, inductionHypothesis, List.countP_cons,
        Nat.add_comm]
      cases counted action <;> rfl

/-- Steps that are free or cost one raise the potential by the number of those
that cost one. -/
theorem run_within_count {counted : α → Bool}
    (pays : system.Pays holds permitted potential
      fun action => (counted action).toNat)
    {first last : σ} (reachable : system.Reachable first)
    (start : holds first) {actions : List α}
    (along : system.Along permitted first actions)
    (ran : system.run first actions = some last) :
    potential last ≤ potential first + actions.countP counted := by
  rw [← sum_toNat]
  exact run_within_budget pays reachable start along ran

/-- Steps that cost nothing never raise the potential, however many there
are. -/
theorem run_without_cost
    (pays : system.Pays holds (fun _ _ => True) potential fun _ => 0)
    {first last : σ} (reachable : system.Reachable first)
    (start : holds first) {actions : List α}
    (ran : system.run first actions = some last) :
    potential last ≤ potential first := by
  have along : system.Along (fun _ _ => True) first actions :=
    (along_iff_forall ran).mpr fun _ _ => trivial
  have bound := run_within_budget pays reachable start along ran
  have free : (actions.map fun _ => 0).sum = 0 := by
    rw [List.map_const', List.sum_replicate_nat, Nat.mul_zero]
  rw [free] at bound
  exact bound

end TransitionSystem
