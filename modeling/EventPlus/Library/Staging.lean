/-
Module: EventPlus.Library.Staging
Purpose: Systems that stage what their actions deliver until the end of a run,
  with actions that drop everything staged, and the runs on which nothing is
  lost.
Trusted boundary: none
Main exports:
  Staging, Staging.CutOff, Staging.run_kept, Staging.run_dropped,
  Staging.lossless_iff
-/
import EventPlus.Library.TransitionSystem

universe u v w

/-- How a system stages what its actions deliver.  An action that fails ends
the run with nothing staged. -/
structure Staging {σ : Type u} {α : Type v} (system : TransitionSystem σ α)
    (β : Type w) where
  staged : σ → List β
  delivered : α → List β
  fails : α → Bool
  keeps : ∀ {before after : σ} {action : α},
    system.step before action = some after → fails action = false →
      staged after = staged before ++ delivered action
  drops : ∀ {before after : σ} {action : α},
    system.step before action = some after → fails action = true →
      staged after = [] ∧ ∀ next, system.step after next = none

namespace Staging

variable {σ : Type u} {α : Type v} {β : Type w}

/-- Something is delivered and the actions end in a failure. -/
def CutOff (delivered : α → List β) (fails : α → Bool) (actions : List α) :
    Prop :=
  (∃ action ∈ actions, delivered action ≠ []) ∧
    ∃ action ∈ actions, fails action = true

variable {system : TransitionSystem σ α} (staging : Staging system β)

theorem run_kept {first last : σ} {actions : List α}
    (ran : system.run first actions = some last)
    (intact : ∀ action ∈ actions, staging.fails action = false) :
    staging.staged last =
      staging.staged first ++ actions.flatMap staging.delivered := by
  induction actions generalizing first with
  | nil =>
      cases ran
      simp
  | cons action rest inductionHypothesis =>
      obtain ⟨after, taken, remaining⟩ := TransitionSystem.run_cons ran
      have here := staging.keeps taken (intact action List.mem_cons_self)
      have later := inductionHypothesis remaining fun next member =>
        intact next (List.mem_cons_of_mem _ member)
      rw [later, here, List.append_assoc, List.flatMap_cons]

/-- The failure is the last action of the run. -/
theorem run_dropped {first last : σ} {actions : List α}
    (ran : system.run first actions = some last)
    (fails : ∃ action ∈ actions, staging.fails action = true) :
    staging.staged last = [] := by
  induction actions generalizing first with
  | nil =>
      obtain ⟨action, member, -⟩ := fails
      cases member
  | cons action rest inductionHypothesis =>
      obtain ⟨after, taken, remaining⟩ := TransitionSystem.run_cons ran
      cases here : staging.fails action with
      | true =>
          obtain ⟨empty, ended⟩ := staging.drops taken here
          cases rest with
          | nil =>
              cases remaining
              exact empty
          | cons next others =>
              obtain ⟨_, enabled, -⟩ := TransitionSystem.run_cons remaining
              cases (ended next).symm.trans enabled
      | false =>
          apply inductionHypothesis remaining
          obtain ⟨failing, member, failed⟩ := fails
          cases member with
          | head => cases here.symm.trans failed
          | tail _ later => exact ⟨failing, later, failed⟩

/-- A run publishes what it was delivered exactly when no failure cuts it
off. -/
theorem lossless_iff {first last : σ} {actions : List α}
    (nothing : staging.staged first = [])
    (ran : system.run first actions = some last) :
    staging.staged last = actions.flatMap staging.delivered ↔
      ¬CutOff staging.delivered staging.fails actions := by
  by_cases failed : ∃ action ∈ actions, staging.fails action = true
  · rw [staging.run_dropped ran failed]
    constructor
    · rintro empty ⟨⟨action, member, some_bytes⟩, -⟩
      exact some_bytes (List.flatMap_eq_nil_iff.mp empty.symm action member)
    · intro intact
      apply Eq.symm
      apply List.flatMap_eq_nil_iff.mpr
      intro action member
      apply Classical.byContradiction
      intro some_bytes
      exact intact ⟨⟨action, member, some_bytes⟩, failed⟩
  · refine iff_of_true ?_ (fun cut => failed cut.2)
    have kept := staging.run_kept ran fun action member => by
      cases fails : staging.fails action with
      | false => rfl
      | true => exact absurd ⟨action, member, fails⟩ failed
    rw [kept, nothing, List.nil_append]

end Staging
