/-
Module: EventPlus.Library.Ledger
Purpose: Things that are made and released, a variable that owns the thing it
  points at, and exactly when such variables release all that was made.
Trusted boundary: none
Main exports:
  Ledger, Ledger.make, Ledger.release, Ledger.ReleasedOnce,
  Ledger.releasedOnce_iff, Owner, Owner.assign, Owner.release, Owner.Sound,
  Owner.NothingLost, Owner.Replaced, Owner.Replaced.nothingLost_iff,
  Owner.nothingLost_release_iff, Owner.releasedOnce_iff_nothingLost
-/
import Mathlib.Data.List.Nodup
import Mathlib.Data.List.Range

/-!
Things of one kind are numbered in the order they are made, and a number is
never used again.  A ledger therefore tells a thing from a later one at the same
address.  Releasing a thing that is not live any more is not an error here but a
stray release, which is counted.

A variable loses a thing when it is assigned another value while it points at
the thing.  Nothing can release the thing after that.
-/

/-- What has been made, what of it is live, and what has been released, in
order. -/
structure Ledger where
  made : Nat
  live : List Nat
  released : List Nat
  strays : Nat
  accounted : (released ++ live).Perm (List.range made)

namespace Ledger

/-- Nothing has been made. -/
def empty : Ledger where
  made := 0
  live := []
  released := []
  strays := 0
  accounted := .refl _

/-- Make one thing.  Its number is `made`. -/
def make (ledger : Ledger) : Ledger where
  made := ledger.made + 1
  live := ledger.made :: ledger.live
  released := ledger.released
  strays := ledger.strays
  accounted := by
    rw [List.range_succ]
    refine List.perm_middle.trans ?_
    refine List.Perm.trans ?_ List.perm_append_comm
    exact ledger.accounted.cons ledger.made

/-- A release of something that is not live. -/
def stray (ledger : Ledger) : Ledger :=
  { ledger with strays := ledger.strays + 1 }

/-- Release one thing. -/
def release (ledger : Ledger) (thing : Nat) : Ledger :=
  if inside : thing ∈ ledger.live then
    { made := ledger.made
      live := ledger.live.erase thing
      released := ledger.released ++ [thing]
      strays := ledger.strays
      accounted := by
        rw [List.append_assoc, List.singleton_append]
        refine List.Perm.trans ?_ ledger.accounted
        exact (List.perm_cons_erase inside).symm.append_left _ }
  else ledger.stray

variable {ledger : Ledger} {thing other : Nat}

theorem nodup (ledger : Ledger) : (ledger.released ++ ledger.live).Nodup :=
  ledger.accounted.nodup_iff.mpr List.nodup_range

theorem nodup_live (ledger : Ledger) : ledger.live.Nodup :=
  (List.nodup_append.mp ledger.nodup).2.1

theorem lt_of_live (live : thing ∈ ledger.live) : thing < ledger.made :=
  List.mem_range.mp
    (ledger.accounted.mem_iff.mp (List.mem_append_right _ live))

/-- Everything made is released once or live. -/
theorem count_released_add_count_live (made : thing < ledger.made) :
    ledger.released.count thing + ledger.live.count thing = 1 := by
  rw [← List.count_append, ledger.accounted.count_eq]
  exact List.count_eq_one_of_mem List.nodup_range (List.mem_range.mpr made)

theorem count_released (made : thing < ledger.made) :
    ledger.released.count thing = if thing ∈ ledger.live then 0 else 1 := by
  have both := count_released_add_count_live made
  split
  · rename_i live
    rw [List.count_eq_one_of_mem ledger.nodup_live live] at both
    omega
  · rename_i gone
    rw [List.count_eq_zero_of_not_mem gone] at both
    exact both

@[simp] theorem live_make : ledger.make.live = ledger.made :: ledger.live :=
  rfl

@[simp] theorem made_make : ledger.make.made = ledger.made + 1 :=
  rfl

theorem live_release (live : thing ∈ ledger.live) :
    (ledger.release thing).live = ledger.live.erase thing := by
  rw [release, dif_pos live]

theorem strays_release (live : thing ∈ ledger.live) :
    (ledger.release thing).strays = ledger.strays := by
  rw [release, dif_pos live]

/-- Releasing a thing at once leaves what was live before. -/
theorem live_make_release (ledger : Ledger) :
    (ledger.make.release ledger.made).live = ledger.live := by
  rw [live_release List.mem_cons_self, live_make]
  exact List.erase_cons_head _ _

@[simp] theorem made_release :
    (ledger.release thing).made = ledger.made := by
  unfold release
  split <;> rfl

/-- Everything that was made has been released exactly once, and nothing else
has. -/
def ReleasedOnce (ledger : Ledger) : Prop :=
  ledger.strays = 0 ∧
    ∀ thing, thing < ledger.made → ledger.released.count thing = 1

theorem releasedOnce_iff :
    ledger.ReleasedOnce ↔ ledger.strays = 0 ∧ ledger.live = [] := by
  unfold ReleasedOnce
  refine and_congr_right fun _ => ?_
  rw [List.eq_nil_iff_forall_not_mem]
  constructor
  · intro once thing live
    have released := once thing (lt_of_live live)
    rw [count_released (lt_of_live live), if_pos live] at released
    cases released
  · intro none_live thing made
    rw [count_released made, if_neg (none_live thing)]

end Ledger

/-- A variable and the ledger of the things assigned to it. -/
structure Owner where
  ledger : Ledger
  pointer : Option Nat

namespace Owner

/-- Assign the variable something newly made, or null where nothing could be
made. -/
def assign (owner : Owner) (created : Bool) : Owner :=
  if created then ⟨owner.ledger.make, some owner.ledger.made⟩
  else ⟨owner.ledger, none⟩

/-- Release what the variable points at, if anything, and set it to null. -/
def release (owner : Owner) : Owner :=
  match owner.pointer with
  | none => owner
  | some thing => ⟨owner.ledger.release thing, none⟩

/-- The variable does not dangle, and no release has gone astray. -/
structure Sound (owner : Owner) : Prop where
  live : ∀ thing, owner.pointer = some thing → thing ∈ owner.ledger.live
  strays : owner.ledger.strays = 0

/-- What is live can still be released through the variable. -/
def NothingLost (owner : Owner) : Prop :=
  ∀ thing ∈ owner.ledger.live, owner.pointer = some thing

variable {owner : Owner}

@[simp] theorem isSome_pointer_assign (created : Bool) :
    (owner.assign created).pointer.isSome = created := by
  cases created <;> rfl

/-- The variable is null where it is known to hold nothing. -/
theorem pointer_eq_none_iff {held : Bool}
    (holds : owner.pointer.isSome = held) :
    owner.pointer = none ↔ held = false := by
  rw [← holds, Option.isSome_eq_false_iff, Option.isNone_iff_eq_none]

@[simp] theorem pointer_release : owner.release.pointer = none := by
  unfold release
  split
  · assumption
  · rfl

theorem Sound.release (sound : owner.Sound) : owner.release.Sound := by
  constructor
  · intro thing points
    rw [pointer_release] at points
    cases points
  · unfold Owner.release
    split
    · exact sound.strays
    · rename_i thing points
      rw [← sound.strays]
      exact Ledger.strays_release (sound.live thing points)

/-- A variable that is null and has lost nothing has nothing live. -/
theorem live_eq_nil (null : owner.pointer = none) :
    owner.NothingLost ↔ owner.ledger.live = [] := by
  rw [List.eq_nil_iff_forall_not_mem]
  constructor
  · intro held thing live
    have points := held thing live
    rw [null] at points
    cases points
  · intro none_live thing live
    exact absurd live (none_live thing)

/-- The variable has been given another value: a new thing, which is live
beside the older ones, or null. -/
structure Replaced (owner after : Owner) : Prop where
  live : after.ledger.live = after.pointer.toList ++ owner.ledger.live
  fresh : ∀ thing, after.pointer = some thing → thing ∉ owner.ledger.live
  strays : after.ledger.strays = owner.ledger.strays

theorem replaced_assign (owner : Owner) (created : Bool) :
    owner.Replaced (owner.assign created) := by
  cases created with
  | false =>
      constructor
      · rfl
      · intro thing points
        cases points
      · rfl
  | true =>
      constructor
      · rfl
      · rintro thing ⟨⟩ live
        exact Nat.lt_irrefl _ (Ledger.lt_of_live live)
      · rfl

theorem Replaced.sound {after : Owner} (replaced : owner.Replaced after)
    (sound : owner.Sound) : after.Sound := by
  constructor
  · intro thing points
    rw [replaced.live, points]
    exact List.mem_cons_self
  · rw [replaced.strays]
    exact sound.strays

/-- Another value loses what the variable pointed at. -/
theorem Replaced.nothingLost_iff {after : Owner}
    (replaced : owner.Replaced after) (sound : owner.Sound) :
    after.NothingLost ↔ owner.NothingLost ∧ owner.pointer = none := by
  constructor
  · intro held
    have none_live : owner.ledger.live = [] := by
      rw [List.eq_nil_iff_forall_not_mem]
      intro thing live
      have points : after.pointer = some thing := by
        apply held
        rw [replaced.live]
        exact List.mem_append_right _ live
      exact replaced.fresh thing points live
    have null : owner.pointer = none := by
      rw [Option.eq_none_iff_forall_not_mem]
      intro thing points
      have live := sound.live thing points
      rw [none_live] at live
      cases live
    exact ⟨(live_eq_nil null).mpr none_live, null⟩
  · rintro ⟨held, null⟩ thing live
    rw [replaced.live, (live_eq_nil null).mp held, List.append_nil,
      Option.mem_toList] at live
    exact live

/-- A release loses nothing, and finds nothing that was lost. -/
theorem nothingLost_release_iff (sound : owner.Sound) :
    owner.release.NothingLost ↔ owner.NothingLost := by
  rw [live_eq_nil pointer_release]
  unfold release
  split
  · rename_i null
    exact (live_eq_nil null).symm
  · rename_i thing points
    have live := sound.live thing points
    rw [Ledger.live_release live, List.eq_nil_iff_forall_not_mem]
    have others : ∀ other, other ∈ owner.ledger.live.erase thing ↔
        other ≠ thing ∧ other ∈ owner.ledger.live :=
      fun other => owner.ledger.nodup_live.mem_erase_iff
    constructor
    · intro none_left other inside
      rw [points]
      by_contra different
      apply none_left other
      rw [others]
      exact ⟨fun same => different (congrArg some same.symm), inside⟩
    · intro held other inside
      rw [others] at inside
      have same := held other inside.2
      rw [points] at same
      exact inside.1 (Option.some.inj same).symm

/-- At the end, when the variable is null, all has been released exactly once
if and only if nothing was lost. -/
theorem releasedOnce_iff_nothingLost (sound : owner.Sound)
    (null : owner.pointer = none) :
    owner.ledger.ReleasedOnce ↔ owner.NothingLost := by
  rw [Ledger.releasedOnce_iff, live_eq_nil null]
  exact and_iff_right sound.strays

end Owner
