/-
Module: EventPlus.Library.RoundRobin
Purpose: Members of a finite family that are served in turn, and how often each
  of them has been served after any number of turns.
Trusted boundary: none
Main exports:
  RoundRobin.turns, RoundRobin.turns_succ, RoundRobin.count_turns,
  RoundRobin.turns_balanced
-/
import Mathlib.Data.Int.CardIntervalMod

namespace RoundRobin

/-- Who is served in the first `calls` turns, oldest first.  Turns are counted
from one. -/
def turns (members calls : Nat) : List Nat :=
  (List.range calls).map fun turn => (turn + 1) % members

@[simp] theorem length_turns (members calls : Nat) :
    (turns members calls).length = calls := by
  simp [turns]

theorem turns_succ (members calls : Nat) :
    turns members (calls + 1) =
      turns members calls ++ [(calls + 1) % members] := by
  simp [turns, List.range_succ]

theorem mem_turns_lt {members calls member : Nat} (some_member : 0 < members)
    (served : member ∈ turns members calls) : member < members := by
  obtain ⟨turn, -, rfl⟩ := List.mem_map.mp served
  exact Nat.mod_lt _ some_member

/-- A member is served at its own residue, one turn later than counted from
zero. -/
theorem count_turns {members : Nat} (some_member : 0 < members)
    {member : Nat} (inside : member < members) (calls : Nat) :
    (turns members calls).count member =
      calls.count (· ≡ member + (members - 1) [MOD members]) := by
  have residue : ∀ turn, (turn + 1) % members = member ↔
      turn ≡ member + (members - 1) [MOD members] := by
    intro turn
    have whole : member + (members - 1) + 1 = member + members := by omega
    have shifted : turn + 1 ≡ member [MOD members] ↔
        turn ≡ member + (members - 1) [MOD members] := by
      constructor
      · intro same
        apply Nat.ModEq.add_right_cancel' 1
        rw [whole]
        exact same.trans Nat.add_modEq_right.symm
      · intro same
        have next := same.add_right 1
        rw [whole] at next
        exact next.trans Nat.add_modEq_right
    rw [← shifted, Nat.ModEq, Nat.mod_eq_of_lt inside]
  induction calls with
  | zero => rfl
  | succ calls inductionHypothesis =>
      rw [turns_succ, List.count_append, inductionHypothesis, Nat.count_succ]
      simp only [List.count_singleton, beq_iff_eq, residue]

/-- No member is served twice more often than another. -/
theorem turns_balanced {members : Nat} (some_member : 0 < members)
    {first second : Nat} (one : first < members) (other : second < members)
    (calls : Nat) :
    (turns members calls).count first ≤
      (turns members calls).count second + 1 := by
  rw [count_turns some_member one, count_turns some_member other,
    Nat.count_modEq_card _ some_member, Nat.count_modEq_card _ some_member]
  split <;> split <;> omega

end RoundRobin
