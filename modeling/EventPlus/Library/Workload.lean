/-
Module: EventPlus.Library.Workload
Purpose: What the members of a finite family have left to do, added up, and how
  the sum changes when one member does a part of it.
Trusted boundary: none
Main exports:
  workload, Workload.le, Workload.le_add, Workload.le_mul,
  Workload.exchange, Workload.move
-/
import Mathlib.Algebra.Order.BigOperators.Group.List
import Mathlib.Algebra.Order.Ring.Nat
import Mathlib.Data.List.Nodup
import Mathlib.Logic.Function.Basic

universe u v w

variable {ι : Type u} {β : Type v} {γ : Type w}

/-- The weights of the members' places, added up. -/
def workload (members : List ι) (weight : β → Nat) (place : ι → β) : Nat :=
  (members.map fun member => weight (place member)).sum

namespace Workload

variable {members : List ι} {weight : β → Nat} {weight' : γ → Nat}
  {place : ι → β} {place' : ι → γ}

/-- Nobody's weight grows. -/
theorem le (others : ∀ member ∈ members,
      weight' (place' member) ≤ weight (place member)) :
    workload members weight' place' ≤ workload members weight place := by
  unfold workload
  exact List.sum_le_sum others

/-- Nobody's weight grows by more than a fixed amount. -/
theorem le_add {more : Nat} (others : ∀ member ∈ members,
      weight' (place' member) ≤ weight (place member) + more) :
    workload members weight' place' ≤
      workload members weight place + more * members.length := by
  unfold workload
  calc (members.map fun member => weight' (place' member)).sum
      ≤ (members.map fun member => weight (place member) + more).sum :=
        List.sum_le_sum others
    _ = _ := by
        rw [List.sum_map_add, List.map_const', List.sum_replicate,
          Nat.nsmul_eq_mul, Nat.mul_comm]

/-- Nobody's weight is more than a fixed amount. -/
theorem le_mul {most : Nat}
    (each : ∀ member ∈ members, weight (place member) ≤ most) :
    workload members weight place ≤ most * members.length := by
  unfold workload
  have bound := List.sum_le_card_nsmul
    (members.map fun member => weight (place member)) most
    (List.forall_mem_map.mpr each)
  rw [List.length_map, Nat.nsmul_eq_mul, Nat.mul_comm] at bound
  exact bound

variable [DecidableEq ι]

/-- One member apart from the others. -/
theorem erase {member : ι} (inside : member ∈ members) :
    workload members weight place =
      weight (place member) +
        workload (members.erase member) weight place := by
  unfold workload
  rw [((List.perm_cons_erase inside).map _).sum_eq, List.map_cons,
    List.sum_cons]

/-- One member's weight changes by a known amount and nobody else's grows.  The
weights may be measured in two ways, before and after. -/
theorem exchange (distinct : members.Nodup) {member : ι}
    (inside : member ∈ members) {done more : Nat}
    (here : weight' (place' member) + done ≤ weight (place member) + more)
    (others : ∀ other ∈ members, other ≠ member →
      weight' (place' other) ≤ weight (place other)) :
    workload members weight' place' + done ≤
      workload members weight place + more := by
  have rest : workload (members.erase member) weight' place' ≤
      workload (members.erase member) weight place := by
    apply le
    intro other left
    exact others other (List.mem_of_mem_erase left)
      (distinct.mem_erase_iff.mp left).1
  have before : workload members weight place = _ := erase inside
  have after : workload members weight' place' = _ := erase inside
  rw [before, after]
  omega

/-- One member moves. -/
theorem move (distinct : members.Nodup) {member : ι}
    (inside : member ∈ members) {next : β} {done more : Nat}
    (here : weight next + done ≤ weight (place member) + more) :
    workload members weight (Function.update place member next) + done ≤
      workload members weight place + more := by
  apply exchange distinct inside
  · rw [Function.update_self]
    exact here
  · intro other _ different
    exact Nat.le_of_eq (by rw [Function.update_of_ne different])

end Workload
