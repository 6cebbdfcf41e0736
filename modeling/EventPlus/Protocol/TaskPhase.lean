/-
Module: EventPlus.Protocol.TaskPhase
Purpose: The order in which tasks may be raised for one connection, as a
  partial automaton over task origins, and what its accepted words look like.
Trusted boundary: none
Main exports:
  Phase, Phase.next, phaseAfter, count_accept_of_phaseAfter,
  count_removal_of_phaseAfter, removal_last_of_phaseAfter
-/
import EventPlus.Common.EventStore
import Mathlib.Data.List.Induction

namespace EventPlus

/-!
This is the purpose of the task queue stated on its own: a connection is
announced once, its data may be reported before and after that, since the
socket is registered before it is announced, and the removal closes the
history.
-/

/-- How far a connection's history has come. -/
inductive Phase where
  | pending
  | announced
  | removed
deriving Repr, Inhabited, DecidableEq

/-- The histories that may follow. -/
def Phase.next : Phase → TaskOrigin → Option Phase
  | .pending, .data => some .pending
  | .pending, .accept => some .announced
  | .announced, .data => some .announced
  | .announced, .removal => some .removed
  | _, _ => none

/-- The phase after a history, `none` where the history breaks the
protocol. -/
def phaseAfter (history : List TaskOrigin) : Option Phase :=
  history.foldlM Phase.next .pending

@[simp] theorem phaseAfter_nil : phaseAfter [] = some .pending := rfl

@[simp] theorem phaseAfter_append_singleton (history : List TaskOrigin)
    (origin : TaskOrigin) :
    phaseAfter (history ++ [origin]) =
      (phaseAfter history).bind fun phase => phase.next origin := by
  simp [phaseAfter, List.foldlM_append]

/-- Data does not change the phase of a connection that is not removed. -/
theorem Phase.next_data {phase : Phase} (live : phase ≠ .removed) :
    phase.next .data = some phase := by
  cases phase with
  | pending => rfl
  | announced => rfl
  | removed => exact absurd rfl live

/-- The last step into a phase. -/
theorem phaseAfter_concat_eq_some {history : List TaskOrigin}
    {origin : TaskOrigin} {phase : Phase}
    (accepted : phaseAfter (history ++ [origin]) = some phase) :
    ∃ earlier, phaseAfter history = some earlier ∧
      earlier.next origin = some phase := by
  rw [phaseAfter_append_singleton] at accepted
  exact Option.bind_eq_some_iff.mp accepted

/-- A history has one accept, unless the connection is still pending. -/
theorem count_accept_of_phaseAfter {history : List TaskOrigin}
    {phase : Phase} (accepted : phaseAfter history = some phase) :
    history.count .accept = if phase = .pending then 0 else 1 := by
  induction history using List.reverseRecOn generalizing phase with
  | nil =>
      cases accepted
      rfl
  | append_singleton history origin inductionHypothesis =>
      obtain ⟨earlier, before, moved⟩ := phaseAfter_concat_eq_some accepted
      rw [List.count_append, inductionHypothesis before]
      cases earlier <;> cases origin <;> cases moved <;> rfl

/-- A history has one removal if the connection is removed, and none
otherwise. -/
theorem count_removal_of_phaseAfter {history : List TaskOrigin}
    {phase : Phase} (accepted : phaseAfter history = some phase) :
    history.count .removal = if phase = .removed then 1 else 0 := by
  induction history using List.reverseRecOn generalizing phase with
  | nil =>
      cases accepted
      rfl
  | append_singleton history origin inductionHypothesis =>
      obtain ⟨earlier, before, moved⟩ := phaseAfter_concat_eq_some accepted
      rw [List.count_append, inductionHypothesis before]
      cases earlier <;> cases origin <;> cases moved <;> rfl

/-- The protocol is prefix closed. -/
theorem phaseAfter_of_append {before after : List TaskOrigin}
    {phase : Phase} (accepted : phaseAfter (before ++ after) = some phase) :
    ∃ earlier, phaseAfter before = some earlier ∧
      after.foldlM Phase.next earlier = some phase := by
  rw [phaseAfter, List.foldlM_append] at accepted
  exact Option.bind_eq_some_iff.mp accepted

/-- A removal comes after the accept, and nothing comes after a removal. -/
theorem removal_last_of_phaseAfter {before after : List TaskOrigin}
    {phase : Phase}
    (accepted : phaseAfter (before ++ .removal :: after) = some phase) :
    .accept ∈ before ∧ after = [] := by
  obtain ⟨earlier, reached, remaining⟩ := phaseAfter_of_append accepted
  rw [List.foldlM_cons] at remaining
  obtain ⟨next, removal, rest⟩ := Option.bind_eq_some_iff.mp remaining
  cases earlier with
  | pending => cases removal
  | removed => cases removal
  | announced =>
      cases removal
      constructor
      · apply List.count_pos_iff.mp
        rw [count_accept_of_phaseAfter reached]
        simp
      · cases after with
        | nil => rfl
        | cons origin later =>
            rw [List.foldlM_cons] at rest
            obtain ⟨impossible, moved, -⟩ := Option.bind_eq_some_iff.mp rest
            cases origin <;> cases moved

example : phaseAfter [.data, .accept, .data, .removal] = some .removed := rfl

end EventPlus
