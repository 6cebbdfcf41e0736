/-
Module: EventPlus.Library.TransitionSystem
Purpose: Transition systems given by an executable partial step function,
  reachability under a permission on steps, and the induction rules that carry
  a property of one step to whole runs.
Trusted boundary: none
Main exports:
  TransitionSystem, Reached, Reachable, Reached.invariant, Along, Throughout,
  throughout_iff_along, Along.throughout, run, last_iff_along, CanReach,
  observed, replay, exists_reached_of_replay
-/
import Mathlib.Logic.Basic

/-!
A system has initial states and a step function `σ → α → Option σ`.  An action
carries every choice the environment or the schedule makes, so the step
function itself is deterministic and computable, and a run is a list of
actions.

Safety properties come in two shapes.  `Reached permitted state` speaks about
the states of all runs whose steps all meet `permitted` in the state they are
taken from.  `Along` and `Throughout` speak about one run given by its actions,
and `throughout_iff_along` turns an exact description of the single bad steps
into an exact description of the bad runs.  `last_iff_along` does the same for
the last state of a run, when what has gone wrong stays wrong.
-/

universe u v w

/-- A transition system with an executable partial step function. -/
structure TransitionSystem (σ : Type u) (α : Type v) where
  initial : σ → Prop
  step : σ → α → Option σ

namespace TransitionSystem

variable {σ : Type u} {α : Type v} (system : TransitionSystem σ α)

/-- States reached by runs whose steps are all permitted in the state they are
taken from. -/
inductive Reached (permitted : σ → α → Prop) : σ → Prop where
  | initial {state : σ} (start : system.initial state) :
      Reached permitted state
  | step {before after : σ} {action : α}
      (reached : Reached permitted before)
      (allowed : permitted before action)
      (taken : system.step before action = some after) :
      Reached permitted after

/-- States reached by arbitrary runs. -/
abbrev Reachable : σ → Prop :=
  system.Reached fun _ _ => True

variable {system}

namespace Reached

/-- A weaker permission reaches at least the same states. -/
theorem mono {strong weak : σ → α → Prop}
    (weaker : ∀ state action, strong state action → weak state action)
    {state : σ} (reached : system.Reached strong state) :
    system.Reached weak state := by
  induction reached with
  | initial start => exact .initial start
  | step _ allowed taken inductionHypothesis =>
      exact .step inductionHypothesis (weaker _ _ allowed) taken

theorem reachable {permitted : σ → α → Prop} {state : σ}
    (reached : system.Reached permitted state) : system.Reachable state :=
  reached.mono fun _ _ _ => trivial

/-- The invariant rule.  The step obligation may use that the state before the
step is itself reached, so invariants proved earlier are at hand. -/
@[elab_as_elim]
theorem invariant {permitted : σ → α → Prop} {holds : σ → Prop}
    (start : ∀ state, system.initial state → holds state)
    (preserved : ∀ before action after,
      system.Reached permitted before → permitted before action →
      system.step before action = some after → holds before → holds after)
    {state : σ} (reached : system.Reached permitted state) :
    holds state := by
  induction reached with
  | initial initially => exact start _ initially
  | step reached allowed taken inductionHypothesis =>
      exact preserved _ _ _ reached allowed taken inductionHypothesis

end Reached

/-- The invariant rule for arbitrary runs. -/
@[elab_as_elim]
theorem Reachable.invariant {holds : σ → Prop}
    (start : ∀ state, system.initial state → holds state)
    (preserved : ∀ before action after, system.Reachable before →
      system.step before action = some after → holds before → holds after)
    {state : σ} (reachable : system.Reachable state) : holds state :=
  Reached.invariant start
    (fun _ _ _ reached _ taken held => preserved _ _ _ reached taken held)
    reachable

/-! ## Properties of one run -/

variable (system)

/-- Every step of the run meets `permitted` in the state it is taken from.  The
run ends at the first action that is not enabled. -/
def Along (permitted : σ → α → Prop) : σ → List α → Prop
  | _, [] => True
  | state, action :: rest =>
      match system.step state action with
      | none => True
      | some after => permitted state action ∧ Along permitted after rest

/-- Every state the run visits satisfies `holds`, the first one included. -/
def Throughout (holds : σ → Prop) : σ → List α → Prop
  | state, [] => holds state
  | state, action :: rest =>
      holds state ∧
        match system.step state action with
        | none => True
        | some after => Throughout holds after rest

variable {system}

theorem Throughout.head {holds : σ → Prop} {state : σ} {actions : List α}
    (throughout : system.Throughout holds state actions) : holds state := by
  cases actions with
  | nil => exact throughout
  | cons action rest => exact throughout.1

/-- When a good state is left for a good state exactly by the permitted steps,
a run stays good exactly when all its steps are permitted. -/
theorem throughout_iff_along {holds : σ → Prop} {permitted : σ → α → Prop}
    (exact_step : ∀ before action after, system.Reachable before →
      holds before → system.step before action = some after →
      (holds after ↔ permitted before action))
    {state : σ} (reachable : system.Reachable state) (good : holds state)
    (actions : List α) :
    system.Throughout holds state actions ↔
      system.Along permitted state actions := by
  induction actions generalizing state with
  | nil => simp [Throughout, Along, good]
  | cons action rest inductionHypothesis =>
      simp only [Throughout, Along]
      cases taken : system.step state action with
      | none => simp [good]
      | some after =>
          have exact_here := exact_step _ _ _ reachable good taken
          have reachableAfter : system.Reachable after :=
            .step reachable trivial taken
          constructor
          · intro throughout
            have goodAfter : holds after := throughout.2.head
            exact ⟨exact_here.mp goodAfter,
              (inductionHypothesis reachableAfter goodAfter).mp
                throughout.2⟩
          · intro along
            have goodAfter : holds after := exact_here.mpr along.1
            exact ⟨good,
              (inductionHypothesis reachableAfter goodAfter).mpr along.2⟩

/-- The invariant rule along one run. -/
theorem Along.throughout {holds : σ → Prop} {permitted : σ → α → Prop}
    (preserved : ∀ before action after, system.Reachable before →
      permitted before action → system.step before action = some after →
      holds before → holds after)
    {state : σ} (reachable : system.Reachable state) (good : holds state)
    {actions : List α} (along : system.Along permitted state actions) :
    system.Throughout holds state actions := by
  induction actions generalizing state with
  | nil => exact good
  | cons action rest inductionHypothesis =>
      simp only [Along] at along
      simp only [Throughout]
      constructor
      · exact good
      · cases taken : system.step state action with
        | none => trivial
        | some after =>
            simp only [taken] at along
            apply inductionHypothesis (.step reachable trivial taken)
            · exact preserved _ _ _ reachable along.1 taken good
            · exact along.2

theorem Throughout.mp {first second third : σ → Prop}
    (implies : ∀ state, first state → second state → third state)
    {state : σ} {actions : List α}
    (one : system.Throughout first state actions)
    (other : system.Throughout second state actions) :
    system.Throughout third state actions := by
  induction actions generalizing state with
  | nil => exact implies _ one other
  | cons action rest inductionHypothesis =>
      simp only [Throughout] at one other ⊢
      constructor
      · exact implies _ one.1 other.1
      · cases taken : system.step state action with
        | none => trivial
        | some after =>
            simp only [taken] at one other
            exact inductionHypothesis one.2 other.2

/-! ## The last state of a run -/

variable (system)

/-- The last state of a run all of whose actions are enabled. -/
def run : σ → List α → Option σ
  | state, [] => some state
  | state, action :: rest =>
      (system.step state action).bind fun after => run after rest

variable {system}

theorem run_cons {state last : σ} {action : α} {rest : List α}
    (ran : system.run state (action :: rest) = some last) :
    ∃ after, system.step state action = some after ∧
      system.run after rest = some last :=
  Option.bind_eq_some_iff.mp ran

theorem reachable_of_run {first last : σ} {actions : List α}
    (reachable : system.Reachable first)
    (ran : system.run first actions = some last) : system.Reachable last := by
  induction actions generalizing first with
  | nil =>
      cases ran
      exact reachable
  | cons action rest inductionHypothesis =>
      obtain ⟨after, taken, remaining⟩ := run_cons ran
      exact inductionHypothesis (.step reachable trivial taken) remaining

/-- What holds throughout a run holds at its end. -/
theorem Throughout.last {holds : σ → Prop} {state last : σ}
    {actions : List α} (throughout : system.Throughout holds state actions)
    (ran : system.run state actions = some last) : holds last := by
  induction actions generalizing state with
  | nil =>
      cases ran
      exact throughout
  | cons action rest inductionHypothesis =>
      obtain ⟨after, taken, remaining⟩ := run_cons ran
      simp only [Throughout, taken] at throughout
      exact inductionHypothesis throughout.2 remaining

/-- A run can be evaluated to find its last state. -/
theorem exists_last_of_run {test : σ → Prop} [DecidablePred test]
    {first : σ} {actions : List α}
    (tested :
      (system.run first actions).any (fun state => test state) = true) :
    ∃ last, system.run first actions = some last ∧ test last := by
  obtain ⟨last, ran, passed⟩ := Option.any_eq_true _ _ |>.mp tested
  exact ⟨last, ran, of_decide_eq_true passed⟩

/-- The invariant rule from a given state on. -/
theorem run_invariant {holds : σ → Prop}
    (preserved : ∀ before action after, system.Reachable before →
      system.step before action = some after → holds before → holds after)
    {state last : σ} (reachable : system.Reachable state) (start : holds state)
    {actions : List α} (ran : system.run state actions = some last) :
    holds last := by
  induction actions generalizing state with
  | nil =>
      cases ran
      exact start
  | cons action rest inductionHypothesis =>
      obtain ⟨after, taken, remaining⟩ := run_cons ran
      apply inductionHypothesis (.step reachable trivial taken) _ remaining
      exact preserved _ _ _ reachable taken start

/-- A bad state stays bad. -/
theorem bad_last {good : σ → Prop}
    (absorbing : ∀ before action after, system.Reachable before →
      ¬good before → system.step before action = some after → ¬good after)
    {state last : σ} (reachable : system.Reachable state)
    (bad : ¬good state) {actions : List α}
    (ran : system.run state actions = some last) : ¬good last := by
  have stays : ∀ before action after, system.Reachable before →
      system.step before action = some after → ¬good before → ¬good after :=
    fun _ _ _ reached taken broken => absorbing _ _ _ reached broken taken
  exact run_invariant stays reachable bad ran

/-- When a good state is left for a good state exactly by the permitted steps
and a bad one is never repaired, a run ends well exactly when all its steps are
permitted. -/
theorem last_iff_along {good : σ → Prop} {permitted : σ → α → Prop}
    (exact_step : ∀ before action after, system.Reachable before →
      good before → system.step before action = some after →
      (good after ↔ permitted before action))
    (absorbing : ∀ before action after, system.Reachable before →
      ¬good before → system.step before action = some after → ¬good after)
    {state last : σ} (reachable : system.Reachable state) (start : good state)
    {actions : List α} (ran : system.run state actions = some last) :
    good last ↔ system.Along permitted state actions := by
  constructor
  · intro atLast
    induction actions generalizing state with
    | nil => trivial
    | cons action rest inductionHypothesis =>
        obtain ⟨after, taken, remaining⟩ := run_cons ran
        have reachableAfter : system.Reachable after :=
          .step reachable trivial taken
        have goodAfter : good after := by
          apply Classical.byContradiction
          intro bad
          exact bad_last absorbing reachableAfter bad remaining atLast
        simp only [Along, taken]
        constructor
        · exact (exact_step _ _ _ reachable start taken).mp goodAfter
        · exact inductionHypothesis reachableAfter goodAfter remaining
  · intro along
    apply Throughout.last _ ran
    exact (throughout_iff_along exact_step reachable start actions).mpr along

/-- A condition on the actions alone, for a run that does not stop early. -/
theorem along_iff_forall {permitted : α → Prop} {state last : σ}
    {actions : List α} (ran : system.run state actions = some last) :
    system.Along (fun _ action => permitted action) state actions ↔
      ∀ action ∈ actions, permitted action := by
  induction actions generalizing state with
  | nil => simp [Along]
  | cons action rest inductionHypothesis =>
      obtain ⟨after, taken, remaining⟩ := run_cons ran
      simp only [Along, taken, List.forall_mem_cons]
      rw [inductionHypothesis remaining]

/-! ## What some run can reach -/

variable (system)

/-- Some run from this state ends in a state with `holds`. -/
def CanReach (holds : σ → Prop) (state : σ) : Prop :=
  ∃ actions last, system.run state actions = some last ∧ holds last

variable {system}

namespace CanReach

theorem now {holds : σ → Prop} {state : σ} (here : holds state) :
    system.CanReach holds state :=
  ⟨[], state, rfl, here⟩

theorem step {holds : σ → Prop} {before after : σ} {action : α}
    (taken : system.step before action = some after)
    (can : system.CanReach holds after) : system.CanReach holds before := by
  obtain ⟨actions, last, ran, there⟩ := can
  refine ⟨action :: actions, last, ?_, there⟩
  rw [run, taken]
  exact ran

theorem mono {first second : σ → Prop}
    (implies : ∀ state, first state → second state) {state : σ}
    (can : system.CanReach first state) : system.CanReach second state := by
  obtain ⟨actions, last, ran, there⟩ := can
  exact ⟨actions, last, ran, implies last there⟩

end CanReach

/-! ## Histories -/

section Observed

variable (system) {η : Type w} (observe : σ → α → η → η) (history : η)

/-- The system with a history beside its state, which no step reads.
`observe` is given the state the step is taken from. -/
def observed : TransitionSystem (σ × η) α where
  initial := fun state => system.initial state.1 ∧ state.2 = history
  step := fun state action =>
    (system.step state.1 action).map fun after =>
      (after, observe state.1 action state.2)

variable {system observe history}

theorem step_of_observed {before after : σ × η} {action : α}
    (taken : (system.observed observe history).step before action =
      some after) :
    system.step before.1 action = some after.1 ∧
      after.2 = observe before.1 action before.2 := by
  obtain ⟨next, moved, rfl⟩ := Option.map_eq_some_iff.mp taken
  exact ⟨moved, rfl⟩

/-- Without its history a run is a run of the system. -/
theorem Reached.of_observed {permitted : σ × η → α → Prop}
    {allowed : σ → α → Prop}
    (weaker : ∀ state action, permitted state action → allowed state.1 action)
    {state : σ × η}
    (reached : (system.observed observe history).Reached permitted state) :
    system.Reached allowed state.1 := by
  induction reached with
  | initial start => exact .initial start.1
  | step _ permits taken inductionHypothesis =>
      exact .step inductionHypothesis (weaker _ _ permits)
        (step_of_observed taken).1

end Observed

/-! ## Replaying concrete runs -/

section Replay

variable (system) (permitted : σ → α → Prop)
  [∀ state action, Decidable (permitted state action)]

/-- Replay a list of actions, refusing a step that is not permitted. -/
def replay : σ → List α → Option σ
  | state, [] => some state
  | state, action :: rest =>
      if permitted state action then
        (system.step state action).bind fun after => replay after rest
      else none

variable {system permitted}

theorem reached_of_replay {first last : σ} {actions : List α}
    (reached : system.Reached permitted first)
    (replayed : system.replay permitted first actions = some last) :
    system.Reached permitted last := by
  induction actions generalizing first with
  | nil =>
      cases replayed
      exact reached
  | cons action rest inductionHypothesis =>
      simp only [replay] at replayed
      split at replayed
      · rename_i allowed
        obtain ⟨after, taken, remaining⟩ :=
          Option.bind_eq_some_iff.mp replayed
        exact inductionHypothesis (.step reached allowed taken) remaining
      · cases replayed

/-- A replayed run is a run of permitted steps. -/
theorem along_of_replay {first last : σ} {actions : List α}
    (replayed : system.replay permitted first actions = some last) :
    system.Along permitted first actions ∧
      system.run first actions = some last := by
  induction actions generalizing first with
  | nil => exact ⟨trivial, replayed⟩
  | cons action rest inductionHypothesis =>
      simp only [replay] at replayed
      split at replayed
      · rename_i allowed
        obtain ⟨after, taken, remaining⟩ :=
          Option.bind_eq_some_iff.mp replayed
        obtain ⟨along, ran⟩ := inductionHypothesis remaining
        simp only [Along, run, taken]
        exact ⟨⟨allowed, along⟩, ran⟩
      · cases replayed

/-- A replayed run whose last state passes a computable test gives a reached
state that satisfies it. -/
theorem exists_reached_of_replay {test : σ → Prop} [DecidablePred test]
    {first : σ} (actions : List α) (start : system.initial first)
    (tested :
      (system.replay permitted first actions).any (fun state => test state) =
        true) :
    ∃ state, system.Reached permitted state ∧ test state := by
  obtain ⟨last, replayed, passed⟩ := Option.any_eq_true _ _ |>.mp tested
  exact ⟨last, reached_of_replay (.initial start) replayed,
    of_decide_eq_true passed⟩

end Replay

end TransitionSystem
