/-
Module: EventPlus.Library.Progress
Purpose: States that a system is bound to come to when only some of its steps
  are taken, and the rule of a variant that each of these steps makes smaller.
Trusted boundary: none
Main exports:
  TransitionSystem.Inevitable, Inevitable.of_kept_variant,
  Inevitable.of_variant, Inevitable.keep, Inevitable.mono
-/
import EventPlus.Library.TransitionSystem

/-!
`working` says which steps are taken: those that are a thread's own, say, and
not those of its environment.  A state is inevitable when every run of working
steps comes to it, whatever order they are taken in and whatever choices they
carry, and when none gets stuck before.
-/

universe u v w

namespace TransitionSystem

variable {σ : Type u} {α : Type v} (system : TransitionSystem σ α)

/-- Every run of working steps comes to a state with `rest`, and until then a
working step can be taken. -/
inductive Inevitable (working : σ → α → Prop) (rest : σ → Prop) :
    σ → Prop where
  | now {state : σ} (here : rest state) : Inevitable working rest state
  | later {state : σ}
      (possible : ∃ action after, working state action ∧
        system.step state action = some after)
      (always : ∀ action after, working state action →
        system.step state action = some after →
          Inevitable working rest after) :
      Inevitable working rest state

variable {system}

namespace Inevitable

variable {working : σ → α → Prop} {rest : σ → Prop}

/-- The variant rule, with what the working steps keep. -/
theorem of_kept_variant {β : Type w} {smaller : β → β → Prop}
    (wellFounded : WellFounded smaller) (variant : σ → β) {kept : σ → Prop}
    (preserved : ∀ before action after, kept before →
      working before action → system.step before action = some after →
        kept after)
    (decreases : ∀ before action after, kept before →
      working before action → system.step before action = some after →
        smaller (variant after) (variant before))
    (enabled : ∀ state, kept state → rest state ∨
      ∃ action after, working state action ∧
        system.step state action = some after)
    {state : σ} (start : kept state) :
    system.Inevitable working rest state := by
  induction measured : variant state using wellFounded.induction
    generalizing state with
  | h value inductionHypothesis =>
      subst measured
      rcases enabled state start with here | possible
      · exact .now here
      · refine .later possible ?_
        intro action after works taken
        exact inductionHypothesis (variant after)
          (decreases state action after start works taken)
          (preserved state action after start works taken) rfl

/-- The variant rule.  Both obligations may use that the state is reached by
permitted steps, which the working steps are. -/
theorem of_variant {β : Type w} {smaller : β → β → Prop}
    (wellFounded : WellFounded smaller) (variant : σ → β)
    {permitted : σ → α → Prop}
    (allowed : ∀ state action, working state action → permitted state action)
    (decreases : ∀ before action after, system.Reached permitted before →
      working before action → system.step before action = some after →
        smaller (variant after) (variant before))
    (enabled : ∀ state, system.Reached permitted state → rest state ∨
      ∃ action after, working state action ∧
        system.step state action = some after)
    {state : σ} (reached : system.Reached permitted state) :
    system.Inevitable working rest state := by
  refine of_kept_variant wellFounded variant ?_ decreases enabled reached
  intro before action after earlier works taken
  exact .step earlier (allowed before action works) taken

/-- What the working steps keep still holds where the run comes to rest. -/
theorem keep {other : σ → Prop} (kept : σ → Prop)
    (preserved : ∀ before action after, working before action →
      system.step before action = some after → kept before → kept after)
    (implies : ∀ state, rest state → kept state → other state)
    {state : σ} (start : kept state)
    (inevitable : system.Inevitable working rest state) :
    system.Inevitable working other state := by
  induction inevitable with
  | now here => exact .now (implies _ here start)
  | later possible _ inductionHypothesis =>
      refine .later possible ?_
      intro action after works taken
      exact inductionHypothesis action after works taken
        (preserved _ _ _ works taken start)

theorem mono {other : σ → Prop}
    (implies : ∀ state, rest state → other state) {state : σ}
    (inevitable : system.Inevitable working rest state) :
    system.Inevitable working other state := by
  have always : ∀ before action after, working before action →
      system.step before action = some after → True → True :=
    fun _ _ _ _ _ => id
  exact inevitable.keep (fun _ => True) always
    (fun state here _ => implies state here) trivial

end Inevitable

end TransitionSystem
