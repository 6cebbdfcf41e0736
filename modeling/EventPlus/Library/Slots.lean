/-
Module: EventPlus.Library.Slots
Purpose: A finite family of slots that each hold at most one value, and how the
  list of values changes when one slot is filled or emptied.
Trusted boundary: none
Main exports:
  Slots.contents, Slots.mem_contents, Slots.contents_fill,
  Slots.contents_clear
-/
import Mathlib.Logic.Function.Basic
import Mathlib.Data.List.Nodup

universe u v

namespace Slots

variable {ι : Type u} {β : Type v} [DecidableEq ι]

/-- The values held by the slots in `indices`. -/
def contents (indices : List ι) (slot : ι → Option β) : List β :=
  indices.filterMap slot

omit [DecidableEq ι] in
theorem mem_contents {indices : List ι} {slot : ι → Option β} {value : β} :
    value ∈ contents indices slot ↔
      ∃ index ∈ indices, slot index = some value :=
  List.mem_filterMap

/-- One slot apart from the others. -/
theorem contents_perm {indices : List ι} {index : ι}
    (member : index ∈ indices) (slot : ι → Option β) :
    (contents indices slot).Perm
      ((slot index).toList ++ contents (indices.erase index) slot) := by
  have split_off := (List.perm_cons_erase member).filterMap slot
  refine split_off.trans ?_
  rw [List.filterMap_cons]
  cases slot index with
  | none => exact .refl _
  | some value => exact .refl _

/-- The others do not see a change. -/
theorem contents_erase_update {indices : List ι} (distinct : indices.Nodup)
    (index : ι) (slot : ι → Option β) (value : Option β) :
    contents (indices.erase index) (Function.update slot index value) =
      contents (indices.erase index) slot := by
  apply List.filterMap_congr
  intro other member
  have different : other ≠ index := by
    rintro rfl
    exact distinct.not_mem_erase member
  exact Function.update_of_ne different _ _

/-- Filling an empty slot adds one value. -/
theorem contents_fill {indices : List ι} (distinct : indices.Nodup)
    {index : ι} (member : index ∈ indices) (slot : ι → Option β)
    (empty : slot index = none) (value : β) :
    (contents indices (Function.update slot index (some value))).Perm
      (value :: contents indices slot) := by
  have after := contents_perm member (Function.update slot index (some value))
  rw [contents_erase_update distinct, Function.update_self] at after
  have before := contents_perm member slot
  rw [empty] at before
  exact after.trans (before.symm.cons value)

/-- Emptying a full slot removes its value. -/
theorem contents_clear {indices : List ι} (distinct : indices.Nodup)
    {index : ι} (member : index ∈ indices) (slot : ι → Option β)
    {value : β} (full : slot index = some value) :
    (contents indices slot).Perm
      (value :: contents indices (Function.update slot index none)) := by
  have after := contents_perm member (Function.update slot index none)
  rw [contents_erase_update distinct, Function.update_self] at after
  have before := contents_perm member slot
  rw [full] at before
  exact before.trans (after.symm.cons value)

end Slots
