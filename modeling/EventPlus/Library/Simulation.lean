/-
Module: EventPlus.Library.Simulation
Purpose: A step function that can go wrong, followed by an abstract one that
  says from the actions alone when it does.
Trusted boundary: none
Main exports:
  TransitionSystem.total, Simulation, Simulation.succeeds_iff_along,
  Simulation.related_last, Simulation.last_iff_along
-/
import EventPlus.Library.TransitionSystem

/-!
The concrete step is a function `γ → α → Except ε γ`, run over a list of actions
by `List.foldlM`.  The abstract one is total.  When a step succeeds exactly
where the abstract state permits it, a run succeeds exactly when the abstract
run, which needs no concrete state, is permitted throughout.
-/

universe u v w x

namespace TransitionSystem

variable {σ : Type u} {α : Type v}

/-- A system in which every action is enabled. -/
def total (first : σ) (after : σ → α → σ) : TransitionSystem σ α where
  initial := fun state => state = first
  step := fun state action => some (after state action)

variable {first : σ} {after : σ → α → σ} {permitted : σ → α → Prop}

theorem along_total_cons {state : σ} {action : α} {rest : List α} :
    (total first after).Along permitted state (action :: rest) ↔
      permitted state action ∧
        (total first after).Along permitted (after state action) rest :=
  Iff.rfl

end TransitionSystem

open TransitionSystem (total along_total_cons)

section Simulation

variable {σ : Type u} {α : Type v} {γ : Type w} {ε : Type x}

/-- `step` succeeds where the abstract state permits the action, and leaves
related states related; elsewhere it is an error. -/
structure Simulation (step : γ → α → Except ε γ) (after : σ → α → σ)
    (permitted : σ → α → Prop) (related : γ → σ → Prop) : Prop where
  succeeds : ∀ {concrete : γ} {state : σ} (action : α),
    related concrete state → permitted state action →
    ∃ next, step concrete action = .ok next ∧
      related next (after state action)
  fails : ∀ {concrete : γ} {state : σ} (action : α),
    related concrete state → ¬permitted state action →
    ∃ error, step concrete action = .error error

namespace Simulation

variable {step : γ → α → Except ε γ} {after : σ → α → σ}
  {permitted : σ → α → Prop} {related : γ → σ → Prop}
  {concrete last : γ} {first state : σ} {actions : List α}

/-- A run begins with a step that succeeds. -/
theorem step_of_foldlM {action : α} {rest : List α}
    (ran : (action :: rest).foldlM step concrete = .ok last) :
    ∃ next, step concrete action = .ok next ∧
      rest.foldlM step next = .ok last := by
  rw [List.foldlM_cons] at ran
  cases taken : step concrete action with
  | error error =>
      rw [taken] at ran
      cases ran
  | ok next =>
      rw [taken] at ran
      exact ⟨next, rfl, ran⟩

/-- A run ends with a step that succeeds. -/
theorem last_step_of_foldlM {action : α}
    (ran : (actions ++ [action]).foldlM step concrete = .ok last) :
    ∃ before, actions.foldlM step concrete = .ok before ∧
      step before action = .ok last := by
  rw [List.foldlM_append] at ran
  cases began : actions.foldlM step concrete with
  | error error =>
      rw [began] at ran
      cases ran
  | ok before =>
      rw [began] at ran
      obtain ⟨next, taken, ended⟩ := step_of_foldlM ran
      cases ended
      exact ⟨before, rfl, taken⟩

/-- A step that succeeds is permitted and leaves related states related. -/
theorem of_step (simulation : Simulation step after permitted related)
    (here : related concrete state) {action : α} {next : γ}
    (taken : step concrete action = .ok next) :
    permitted state action ∧ related next (after state action) := by
  have permits : permitted state action := by
    apply Classical.byContradiction
    intro refused
    obtain ⟨error, failed⟩ := simulation.fails action here refused
    rw [taken] at failed
    cases failed
  obtain ⟨same, succeeded, there⟩ := simulation.succeeds action here permits
  rw [taken] at succeeded
  cases succeeded
  exact ⟨permits, there⟩

/-- A run succeeds exactly when the abstract run is permitted throughout. -/
theorem succeeds_iff_along
    (simulation : Simulation step after permitted related)
    (here : related concrete state) :
    (∃ last, actions.foldlM step concrete = .ok last) ↔
      (total first after).Along permitted state actions := by
  induction actions generalizing concrete state with
  | nil => exact iff_of_true ⟨concrete, rfl⟩ trivial
  | cons action rest inductionHypothesis =>
      rw [along_total_cons]
      constructor
      · rintro ⟨last, ran⟩
        obtain ⟨next, taken, remaining⟩ := step_of_foldlM ran
        obtain ⟨permits, there⟩ := simulation.of_step here taken
        exact ⟨permits, (inductionHypothesis there).mp ⟨last, remaining⟩⟩
      · rintro ⟨permits, along⟩
        obtain ⟨next, taken, there⟩ :=
          simulation.succeeds action here permits
        obtain ⟨last, remaining⟩ := (inductionHypothesis there).mpr along
        refine ⟨last, ?_⟩
        rw [List.foldlM_cons, taken]
        exact remaining

/-- The last states of the two runs are related. -/
theorem related_last (simulation : Simulation step after permitted related)
    (here : related concrete state)
    (ran : actions.foldlM step concrete = .ok last) :
    related last (actions.foldl after state) := by
  induction actions generalizing concrete state with
  | nil =>
      cases ran
      exact here
  | cons action rest inductionHypothesis =>
      obtain ⟨next, taken, remaining⟩ := step_of_foldlM ran
      exact inductionHypothesis (simulation.of_step here taken).2 remaining

/-- What a step keeps exactly where the abstract state spares it, a run keeps
exactly when it is spared throughout. -/
theorem last_iff_along (simulation : Simulation step after permitted related)
    {holds : γ → Prop} {spares : σ → α → Prop}
    (exact_step : ∀ {before next : γ} {abstract : σ} {action : α},
      related before abstract → step before action = .ok next →
      (holds next ↔ holds before ∧ spares abstract action))
    (here : related concrete state)
    (ran : actions.foldlM step concrete = .ok last) :
    holds last ↔
      holds concrete ∧ (total first after).Along spares state actions := by
  induction actions generalizing concrete state with
  | nil =>
      cases ran
      exact (and_iff_left trivial).symm
  | cons action rest inductionHypothesis =>
      obtain ⟨next, taken, remaining⟩ := step_of_foldlM ran
      have there := (simulation.of_step here taken).2
      rw [along_total_cons, inductionHypothesis there remaining,
        exact_step here taken, and_assoc]

end Simulation

end Simulation
