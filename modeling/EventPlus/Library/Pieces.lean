/-
Module: EventPlus.Library.Pieces
Purpose: Lists of entries with owners, and when every owner's entries stand
  next to each other, so that the list is one piece of each owner after the
  other.
Trusted boundary: none
Main exports:
  Pieces.join, Pieces.Whole, Pieces.owned, Pieces.Continues,
  Pieces.whole_append_iff, Pieces.owned_join
-/
import Mathlib.Data.List.Basic
import Mathlib.Logic.Function.Basic

universe u v

namespace Pieces

open Function (update)

variable {ι : Type u} {β : Type v}

/-- One piece of each owner after the other. -/
def join (order : List ι) (piece : ι → List β) : List (ι × β) :=
  order.flatMap fun owner => (piece owner).map (Prod.mk owner)

/-- No owner's entries are split by another's. -/
def Whole (entries : List (ι × β)) : Prop :=
  ∃ order piece, order.Nodup ∧ (∀ owner ∈ order, piece owner ≠ []) ∧
    entries = join order piece

/-- An owner with no entries yet, or with the last one. -/
def Continues (owner : ι) (entries : List (ι × β)) : Prop :=
  owner ∉ entries.map Prod.fst ∨
    (entries.map Prod.fst).getLast? = some owner

theorem join_concat (order : List ι) (owner : ι) (piece : ι → List β) :
    join (order ++ [owner]) piece =
      join order piece ++ (piece owner).map (Prod.mk owner) := by
  simp [join]

theorem join_congr {order : List ι} {first second : ι → List β}
    (same : ∀ owner ∈ order, first owner = second owner) :
    join order first = join order second := by
  apply List.flatMap_congr
  intro owner member
  rw [same owner member]

theorem mem_of_owner {order : List ι} {piece : ι → List β} {owner : ι}
    (member : owner ∈ (join order piece).map Prod.fst) : owner ∈ order := by
  obtain ⟨entry, joined, rfl⟩ := List.mem_map.mp member
  obtain ⟨other, ordered, entered⟩ := List.mem_flatMap.mp joined
  obtain ⟨element, -, rfl⟩ := List.mem_map.mp entered
  exact ordered

theorem owner_of_mem {order : List ι} {piece : ι → List β} {owner : ι}
    (some_entries : piece owner ≠ []) (member : owner ∈ order) :
    owner ∈ (join order piece).map Prod.fst := by
  obtain ⟨element, entered⟩ := List.exists_mem_of_ne_nil _ some_entries
  apply List.mem_map.mpr
  refine ⟨(owner, element), ?_, rfl⟩
  apply List.mem_flatMap.mpr
  exact ⟨owner, member, List.mem_map_of_mem entered⟩

namespace Whole

variable {entries : List (ι × β)} {owner : ι} {chunk : List β}

theorem nil : Whole ([] : List (ι × β)) :=
  ⟨[], fun _ => [], List.nodup_nil, by simp, rfl⟩

variable [DecidableEq ι]

/-- A piece of a new owner. -/
theorem fresh (whole : Whole entries) (some_entries : chunk ≠ [])
    (new : owner ∉ entries.map Prod.fst) :
    Whole (entries ++ chunk.map (Prod.mk owner)) := by
  obtain ⟨order, piece, nodup, nonempty, rfl⟩ := whole
  have absent : owner ∉ order := by
    intro member
    exact new (owner_of_mem (nonempty owner member) member)
  have others : ∀ other ∈ order, update piece owner chunk other =
      piece other := by
    intro other member
    apply Function.update_of_ne
    rintro rfl
    exact absent member
  refine ⟨order ++ [owner], update piece owner chunk, ?_, ?_, ?_⟩
  · simpa [List.nodup_append, nodup] using
      fun other member => ne_of_mem_of_not_mem member absent
  · intro other member
    rcases List.mem_append.mp member with earlier | last
    · rw [others other earlier]
      exact nonempty other earlier
    · rw [List.mem_singleton.mp last, Function.update_self]
      exact some_entries
  · rw [join_concat, Function.update_self, join_congr others]

/-- More of the last owner's piece. -/
theorem extend (whole : Whole entries)
    (last : (entries.map Prod.fst).getLast? = some owner) :
    Whole (entries ++ chunk.map (Prod.mk owner)) := by
  obtain ⟨order, piece, nodup, nonempty, rfl⟩ := whole
  rcases List.eq_nil_or_concat' order with rfl | ⟨front, final, rfl⟩
  · cases last
  · have same : final = owner := by
      have entered := nonempty final (by simp)
      obtain ⟨elements, element, ends⟩ :=
        (List.eq_nil_or_concat' (piece final)).resolve_left entered
      rw [join_concat, ends] at last
      simpa using last
    subst same
    have absent : final ∉ front := by
      simp only [List.nodup_append] at nodup
      intro member
      exact nodup.2.2 final member final (List.mem_singleton_self _) rfl
    have others : ∀ other ∈ front,
        update piece final (piece final ++ chunk) other = piece other := by
      intro other member
      apply Function.update_of_ne
      rintro rfl
      exact absent member
    refine ⟨front ++ [final], update piece final (piece final ++ chunk),
      nodup, ?_, ?_⟩
    · intro other member
      by_cases here : other = final
      · rw [here, Function.update_self]
        exact List.append_ne_nil_of_left_ne_nil (nonempty final (by simp)) _
      · rw [Function.update_of_ne here]
        exact nonempty other member
    · rw [join_concat, join_concat, Function.update_self,
        join_congr others, List.map_append, List.append_assoc]

end Whole

/-- In a list of pieces no owner comes back after another one. -/
theorem not_split {order : List ι} {piece : ι → List β}
    (nodup : order.Nodup) {first second : ι} (different : first ≠ second) :
    ¬List.Sublist [first, second, first]
      ((join order piece).map Prod.fst) := by
  induction order with
  | nil =>
      intro split
      cases split
  | cons owner rest inductionHypothesis =>
      have mine : ∀ other ∈ ((piece owner).map (Prod.mk owner)).map Prod.fst,
          other = owner := by
        intro other member
        obtain ⟨entry, entered, rfl⟩ := List.mem_map.mp member
        obtain ⟨element, -, rfl⟩ := List.mem_map.mp entered
        rfl
      intro split
      rw [join, List.flatMap_cons, List.map_append,
        List.sublist_append_iff] at split
      obtain ⟨front, back, parts, early, late⟩ := split
      cases front with
      | nil =>
          rw [List.nil_append] at parts
          subst parts
          exact inductionHypothesis (List.nodup_cons.mp nodup).2 late
      | cons one more =>
          rw [List.cons_append, List.cons.injEq] at parts
          obtain ⟨rfl, others⟩ := parts
          have here : first = owner := mine first (early.subset (by simp))
          cases more with
          | nil =>
              rw [List.nil_append] at others
              subst others
              have again : first ∈ rest :=
                mem_of_owner (late.subset (by simp))
              exact (List.nodup_cons.mp nodup).1 (here ▸ again)
          | cons two more =>
              rw [List.cons_append, List.cons.injEq] at others
              obtain ⟨rfl, -⟩ := others
              have there : second = owner :=
                mine second (early.subset (by simp))
              exact different (here.trans there.symm)

/-- More entries of one owner keep the list whole exactly when they start or
continue its piece. -/
theorem whole_append_iff [DecidableEq ι] {entries : List (ι × β)} {owner : ι}
    {chunk : List β} (whole : Whole entries) (some_entries : chunk ≠ []) :
    Whole (entries ++ chunk.map (Prod.mk owner)) ↔
      Continues owner entries := by
  constructor
  · rintro ⟨order, piece, nodup, -, joined⟩
    apply Classical.byContradiction
    intro comes_back
    obtain ⟨before, last⟩ := not_or.mp comes_back
    rcases List.eq_nil_or_concat' entries with rfl | ⟨front, final, rfl⟩
    · exact before List.not_mem_nil
    · have different : owner ≠ final.1 := by
        rintro rfl
        simp at last
      have earlier : owner ∈ front.map Prod.fst := by
        simpa [different] using before
      have later : owner ∈ (chunk.map (Prod.mk owner)).map Prod.fst := by
        obtain ⟨element, member⟩ := List.exists_mem_of_ne_nil _ some_entries
        exact List.mem_map_of_mem (List.mem_map_of_mem member)
      apply @not_split _ _ order piece nodup _ _ different
      rw [← joined, List.map_append, List.map_append]
      exact ((List.singleton_sublist.mpr earlier).append
        (List.Sublist.refl [final.1])).append
          (List.singleton_sublist.mpr later)
  · rintro (new | last)
    · exact whole.fresh some_entries new
    · exact whole.extend last

/-- An owner that goes on has the last entry. -/
theorem Continues.append {entries : List (ι × β)} {owner : ι}
    {chunk : List β} (continues : Continues owner entries) :
    Continues owner (entries ++ chunk.map (Prod.mk owner)) := by
  rcases List.eq_nil_or_concat' chunk with rfl | ⟨front, final, rfl⟩
  · rw [List.map_nil, List.append_nil]
    exact continues
  · right
    simp

/-! ## The entries of one owner -/

/-- What an owner has in the list, in order. -/
def owned [DecidableEq ι] (owner : ι) (entries : List (ι × β)) : List β :=
  (entries.filter fun entry => entry.1 = owner).map Prod.snd

section Owned

variable [DecidableEq ι] {owner other : ι} {entries : List (ι × β)}
  {chunk : List β}

theorem owned_append (first second : List (ι × β)) :
    owned owner (first ++ second) =
      owned owner first ++ owned owner second := by
  simp [owned]

theorem owned_self : owned owner (chunk.map (Prod.mk owner)) = chunk := by
  simp [owned, List.filter_map, Function.comp_def]

theorem owned_of_ne (different : other ≠ owner) :
    owned other (chunk.map (Prod.mk owner)) = [] := by
  simp [owned, List.filter_map, Function.comp_def, different.symm]

theorem mem_of_owned (some_entries : owned owner entries ≠ []) :
    owner ∈ entries.map Prod.fst := by
  apply Classical.byContradiction
  intro absent
  apply some_entries
  simp only [owned, List.map_eq_nil_iff, List.filter_eq_nil_iff,
    decide_eq_true_eq]
  rintro entry member rfl
  exact absent (List.mem_map_of_mem member)

theorem not_mem_of_owned (nothing : owned owner entries = []) :
    owner ∉ entries.map Prod.fst := by
  intro member
  obtain ⟨entry, entered, rfl⟩ := List.mem_map.mp member
  have counted : entry.2 ∈ owned entry.1 entries :=
    List.mem_map_of_mem (List.mem_filter.mpr ⟨entered, by simp⟩)
  rw [nothing] at counted
  cases counted

/-- An owner has the whole of its piece. -/
theorem owned_join {order : List ι} {piece : ι → List β}
    (nodup : order.Nodup) (member : owner ∈ order) :
    owned owner (join order piece) = piece owner := by
  induction order with
  | nil => cases member
  | cons head rest inductionHypothesis =>
      obtain ⟨absent, others⟩ := List.nodup_cons.mp nodup
      rw [join, List.flatMap_cons, owned_append]
      change _ ++ owned owner (join rest piece) = _
      by_cases here : owner = head
      · subst here
        have nothing : owned owner (join rest piece) = [] := by
          apply Classical.byContradiction
          intro some_entries
          exact absent (mem_of_owner (mem_of_owned some_entries))
        rw [owned_self, nothing, List.append_nil]
      · rw [owned_of_ne here, List.nil_append]
        have later := (List.mem_cons.mp member).resolve_left here
        exact inductionHypothesis others later

end Owned

end Pieces
