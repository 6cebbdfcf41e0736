/-
Module: EventPlus.Library.Census
Purpose: How many members of a finite family are at a place of a given kind,
  and how that number changes when one member moves.
Trusted boundary: none
Main exports:
  census, census_eq_zero, census_le_of_imp, census_move
-/
import Mathlib.Data.List.Nodup
import Mathlib.Logic.Function.Basic

universe u v

variable {ι : Type u} {β : Type v}

/-- The number of members whose place passes the test. -/
def census (members : List ι) (test : β → Bool) (place : ι → β) : Nat :=
  members.countP fun member => test (place member)

namespace Census

variable {members : List ι} {test : β → Bool} {place : ι → β}

theorem census_eq_zero :
    census members test place = 0 ↔
      ∀ member ∈ members, test (place member) = false := by
  unfold census
  rw [List.countP_eq_zero]
  constructor
  · intro none member inside
    exact Bool.eq_false_iff.mpr (none member inside)
  · intro none member inside
    exact Bool.eq_false_iff.mp (none member inside)

/-- Nobody leaves the kind of place that is counted. -/
theorem census_le_of_imp {place' : ι → β}
    (kept : ∀ member ∈ members, test (place member) = true →
      test (place' member) = true) :
    census members test place ≤ census members test place' :=
  List.countP_mono_left kept

variable [DecidableEq ι]

/-- One member apart from the others. -/
theorem census_erase {member : ι} (inside : member ∈ members) :
    census members test place =
      census (members.erase member) test place +
        (test (place member)).toNat := by
  unfold census
  rw [(List.perm_cons_erase inside).countP_eq, List.countP_cons]
  cases test (place member) <;> rfl

/-- The others do not see a move. -/
theorem census_erase_update (distinct : members.Nodup) (member : ι)
    (next : β) :
    census (members.erase member) test (Function.update place member next) =
      census (members.erase member) test place := by
  apply List.countP_congr
  intro other inside
  have different : other ≠ member := by
    rintro rfl
    exact distinct.not_mem_erase inside
  rw [Function.update_of_ne different]

/-- The count before and after a move, in a form without subtraction. -/
theorem census_move (distinct : members.Nodup) {member : ι}
    (inside : member ∈ members) (next : β) :
    census members test (Function.update place member next) +
        (test (place member)).toNat =
      census members test place + (test next).toNat := by
  have after : census members test (Function.update place member next) =
      census (members.erase member) test place + (test next).toNat := by
    rw [census_erase inside, census_erase_update distinct,
      Function.update_self]
  have before : census members test place =
      census (members.erase member) test place +
        (test (place member)).toNat := census_erase inside
  rw [after, before]
  exact Nat.add_right_comm _ _ _

end Census
