/-
Module: EventPlus.Library.Refinement
Purpose: One transition system as an implementation of another: some of its
  steps are steps of the abstract system, the others cannot be seen there.
Trusted boundary: none
Main exports:
  TransitionSystem.trace, Refinement, Refinement.run, joined,
  Refinement.agree
-/
import EventPlus.Library.TransitionSystem

/-!
`view` is the abstract state behind a concrete one, and `label` the event that a
step shows.  A step that shows nothing leaves the view alone.

Two systems that implement the same one can be run side by side, each showing
its events to the other.  An abstract system has at most one next state for an
event, so the two never disagree about the abstract state.
-/

universe u v w x y z

namespace TransitionSystem

variable {σ : Type u} {α : Type v} {ε : Type w}

/-- What a run shows. -/
def trace (system : TransitionSystem σ α) (label : σ → α → Option ε) :
    σ → List α → List ε
  | _, [] => []
  | state, action :: rest =>
      match system.step state action with
      | none => []
      | some after =>
          (label state action).toList ++ trace system label after rest

theorem run_append {system : TransitionSystem σ α} {first last : σ}
    (initial more : List α)
    (ran : system.run first initial = some last) :
    system.run first (initial ++ more) = system.run last more := by
  induction initial generalizing first with
  | nil =>
      cases ran
      rfl
  | cons action rest inductionHypothesis =>
      obtain ⟨after, taken, remaining⟩ := run_cons ran
      rw [List.cons_append, run, taken]
      exact inductionHypothesis remaining

/-- An abstract step if an event is shown, and none if it is not. -/
def Shows {τ : Type u} (abstract : TransitionSystem τ ε) (before : τ) :
    Option ε → τ → Prop
  | none, after => after = before
  | some event, after => abstract.step before event = some after

end TransitionSystem

open TransitionSystem

variable {σ : Type u} {α : Type v} {τ : Type w} {ε : Type x}

/-- The steps of `concrete` that show an event are steps of `abstract`, and the
others leave the view as it is. -/
structure Refinement (concrete : TransitionSystem σ α)
    (abstract : TransitionSystem τ ε) (view : σ → τ)
    (label : σ → α → Option ε) : Prop where
  initial : ∀ {state : σ}, concrete.initial state →
    abstract.initial (view state)
  visible : ∀ {before : σ} {action : α} {after : σ} {event : ε},
    concrete.Reachable before → concrete.step before action = some after →
      label before action = some event →
        abstract.step (view before) event = some (view after)
  silent : ∀ {before : σ} {action : α} {after : σ},
    concrete.Reachable before → concrete.step before action = some after →
      label before action = none → view after = view before

namespace Refinement

variable {concrete : TransitionSystem σ α} {abstract : TransitionSystem τ ε}
  {view : σ → τ} {label : σ → α → Option ε}

/-- Both obligations of a step at once. -/
theorem of_step
    (initial : ∀ {state : σ}, concrete.initial state →
      abstract.initial (view state))
    (steps : ∀ {before : σ} {action : α} {after : σ},
      concrete.Reachable before → concrete.step before action = some after →
        abstract.Shows (view before) (label before action) (view after)) :
    Refinement concrete abstract view label where
  initial := initial
  visible := by
    intro before action after event reachable taken shown
    have moved := steps reachable taken
    rw [shown] at moved
    exact moved
  silent := by
    intro before action after reachable taken hidden
    have moved := steps reachable taken
    rw [hidden] at moved
    exact moved

/-- What one step shows is a run of the abstract system. -/
theorem step (refinement : Refinement concrete abstract view label)
    {before after : σ} {action : α} (reachable : concrete.Reachable before)
    (taken : concrete.step before action = some after) :
    abstract.run (view before) (label before action).toList =
      some (view after) := by
  cases shown : label before action with
  | none =>
      rw [refinement.silent reachable taken shown]
      rfl
  | some event =>
      rw [Option.toList_some, TransitionSystem.run,
        refinement.visible reachable taken shown]
      rfl

/-- What a run shows is a run of the abstract system. -/
theorem run (refinement : Refinement concrete abstract view label)
    {first last : σ} (reachable : concrete.Reachable first) {actions : List α}
    (ran : concrete.run first actions = some last) :
    abstract.run (view first) (concrete.trace label first actions) =
      some (view last) := by
  induction actions generalizing first with
  | nil =>
      cases ran
      rfl
  | cons action rest inductionHypothesis =>
      obtain ⟨after, taken, remaining⟩ := run_cons ran
      simp only [trace, taken]
      rw [run_append _ _ (refinement.step reachable taken)]
      exact inductionHypothesis (.step reachable trivial taken) remaining

end Refinement

/-! ## Two implementations side by side -/

/-- A step of one system that the other does not see, or a step of both. -/
inductive JointAction (α : Type v) (β : Type w) where
  | first (action : α)
  | second (action : β)
  | both (one : α) (other : β)
deriving Repr, DecidableEq

section Joined

variable {β : Type y} {ρ : Type z} [DecidableEq ε]

/-- Two systems that take the steps that show an event together. -/
def joined (first : TransitionSystem σ α) (second : TransitionSystem ρ β)
    (firstLabel : σ → α → Option ε) (secondLabel : ρ → β → Option ε) :
    TransitionSystem (σ × ρ) (JointAction α β) where
  initial := fun state => first.initial state.1 ∧ second.initial state.2
  step := fun state action =>
    match action with
    | .first action =>
        if firstLabel state.1 action = none then
          (first.step state.1 action).map fun after => (after, state.2)
        else none
    | .second action =>
        if secondLabel state.2 action = none then
          (second.step state.2 action).map fun after => (state.1, after)
        else none
    | .both one other =>
        if firstLabel state.1 one = secondLabel state.2 other ∧
            (firstLabel state.1 one).isSome = true then
          (first.step state.1 one).bind fun after =>
            (second.step state.2 other).map fun next => (after, next)
        else none

variable {first : TransitionSystem σ α} {second : TransitionSystem ρ β}
  {firstLabel : σ → α → Option ε} {secondLabel : ρ → β → Option ε}

/-- What a step of two systems is. -/
inductive JointStep (first : TransitionSystem σ α)
    (second : TransitionSystem ρ β) (firstLabel : σ → α → Option ε)
    (secondLabel : ρ → β → Option ε) (before : σ × ρ) :
    JointAction α β → σ × ρ → Prop where
  | first {action : α} {after : σ}
      (taken : first.step before.1 action = some after)
      (hidden : firstLabel before.1 action = none) :
      JointStep first second firstLabel secondLabel before (.first action)
        (after, before.2)
  | second {action : β} {after : ρ}
      (taken : second.step before.2 action = some after)
      (hidden : secondLabel before.2 action = none) :
      JointStep first second firstLabel secondLabel before (.second action)
        (before.1, after)
  | both {one : α} {other : β} {after : σ × ρ} {event : ε}
      (firstTaken : first.step before.1 one = some after.1)
      (secondTaken : second.step before.2 other = some after.2)
      (firstShown : firstLabel before.1 one = some event)
      (secondShown : secondLabel before.2 other = some event) :
      JointStep first second firstLabel secondLabel before (.both one other)
        after

theorem jointStep_of_step {before after : σ × ρ} {action : JointAction α β}
    (taken : (joined first second firstLabel secondLabel).step before action =
      some after) :
    JointStep first second firstLabel secondLabel before action after := by
  cases action with
  | first action =>
      simp only [joined] at taken
      split at taken
      · obtain ⟨next, moved, rfl⟩ := Option.map_eq_some_iff.mp taken
        exact .first moved ‹_›
      · cases taken
  | second action =>
      simp only [joined] at taken
      split at taken
      · obtain ⟨next, moved, rfl⟩ := Option.map_eq_some_iff.mp taken
        exact .second moved ‹_›
      · cases taken
  | both one other =>
      simp only [joined] at taken
      split at taken
      · rename_i together
        obtain ⟨event, shown⟩ := Option.isSome_iff_exists.mp together.2
        obtain ⟨next, moved, rest⟩ := Option.bind_eq_some_iff.mp taken
        obtain ⟨later, followed, rfl⟩ := Option.map_eq_some_iff.mp rest
        exact .both moved followed shown (together.1.symm.trans shown)
      · cases taken

/-- Without the other system a run is a run of either. -/
theorem reachable_of_joined {state : σ × ρ}
    (reachable :
      (joined first second firstLabel secondLabel).Reachable state) :
    first.Reachable state.1 ∧ second.Reachable state.2 := by
  refine TransitionSystem.Reachable.invariant ?_ ?_ reachable
  · intro state initially
    exact ⟨.initial initially.1, .initial initially.2⟩
  · intro before action after _ taken reached
    cases jointStep_of_step taken with
    | first moved _ => exact ⟨.step reached.1 trivial moved, reached.2⟩
    | second moved _ => exact ⟨reached.1, .step reached.2 trivial moved⟩
    | both firstTaken secondTaken _ _ =>
        exact ⟨.step reached.1 trivial firstTaken,
          .step reached.2 trivial secondTaken⟩

variable {abstract : TransitionSystem τ ε} {firstView : σ → τ}
  {secondView : ρ → τ}

/-- Two implementations of a system with one initial state agree on its state
as long as they run side by side. -/
theorem Refinement.agree
    (firstRefines : Refinement first abstract firstView firstLabel)
    (secondRefines : Refinement second abstract secondView secondLabel)
    (one_start : ∀ {state other : τ}, abstract.initial state →
      abstract.initial other → state = other)
    {state : σ × ρ}
    (reachable :
      (joined first second firstLabel secondLabel).Reachable state) :
    firstView state.1 = secondView state.2 := by
  refine TransitionSystem.Reachable.invariant ?_ ?_ reachable
  · intro state initially
    exact one_start (firstRefines.initial initially.1)
      (secondRefines.initial initially.2)
  · intro before action after reached taken same
    obtain ⟨firstReached, secondReached⟩ := reachable_of_joined reached
    cases jointStep_of_step taken with
    | first moved hidden =>
        exact (firstRefines.silent firstReached moved hidden).trans same
    | second moved hidden =>
        exact same.trans
          (secondRefines.silent secondReached moved hidden).symm
    | both firstTaken secondTaken firstShown secondShown =>
        have moved :=
          firstRefines.visible firstReached firstTaken firstShown
        have followed :=
          secondRefines.visible secondReached secondTaken secondShown
        rw [same, followed] at moved
        exact (Option.some.inj moved).symm

end Joined
