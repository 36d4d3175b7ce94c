import Mathlib.Data.List.Nodup
import Mathlib.Data.List.Perm.Subperm
import Specimen.Proofs.Random.Draws
import Specimen.Proofs.Sorted

set_option autoImplicit false

/-!
# Samples have distinct positions

All that is expected of a sampler is as many positions as are asked for, all of them different. The
usual sampler is one that can be relied on, whichever of its ways it goes. Where positions are
collected, the bound grows by one with each of them: the position that takes the place of one drawn
twice is the greatest below the new bound, and has not been collected before. Where the front of a
list is shuffled, the list stays a permutation of all positions. Where positions are drawn until
they are different, one that has not been picked is always left.

## Main definitions

* `Specimen.Draw.IsSample` — so many different positions of a list.
* `Specimen.Sampler.IsExact` — a sampler that can be relied on.

## Main results

* `Specimen.Draw.gives_collect`, `Specimen.Draw.gives_shuffleFront`,
  `Specimen.Draw.gives_collectFresh` — the three ways.
* `Specimen.Draw.isExact_positions` — the usual sampler can be relied on.
* `Specimen.Draw.pairwise_lt_mergeSort` — a sample that is sorted is strictly ascending.
-/

namespace Specimen

/-- Different positions, as many as there are to be. -/
structure Draw.IsSample (length count : Nat) (positions : List Nat) : Prop where
  /-- No position comes twice. -/
  nodup : positions.Nodup
  /-- All positions are in the list. -/
  lt : ∀ n ∈ positions, n < length
  /-- There are so many positions. -/
  length_eq : positions.length = count

/-- The sampler can be relied on: it gives samples of the size that it is asked for, when this is at
most the length. -/
def Sampler.IsExact (sampler : Sampler) : Prop :=
  ∀ length amount, amount ≤ length →
    Gives (sampler length amount) (Draw.IsSample length amount)

namespace Draw

theorem isSample_nil (length : Nat) : IsSample length 0 [] := ⟨List.nodup_nil, nofun, rfl⟩

/-! ## Positions one by one -/

/-- What is drawn twice gives way to a position that has not been there before. -/
theorem IsSample.replaceAll_append {length count : Nat} {picked : List Nat}
    (h : IsSample length count picked) {position : Nat} (hposition : position < length + 1) :
    IsSample (length + 1) (count + 1) (replaceAll position length picked ++ [position]) := by
  refine ⟨List.nodup_append.2
    ⟨h.nodup.map_on fun n hn m hm heq => ?_, List.nodup_singleton _, ?_⟩, ?_, ?_⟩
  · have hnlast := h.lt n hn
    have hmlast := h.lt m hm
    split at heq <;> split at heq <;> omega
  · intro replaced hreplaced other hother
    obtain ⟨n, hn, rfl⟩ := List.mem_map.1 hreplaced
    obtain rfl := List.mem_singleton.1 hother
    have hnlast := h.lt n hn
    split <;> omega
  · intro m hm
    rcases List.mem_append.1 hm with hreplaced | hother
    · obtain ⟨n, hn, rfl⟩ := List.mem_map.1 hreplaced
      have hnlast := h.lt n hn
      split <;> omega
    · rwa [List.mem_singleton.1 hother]
  · rw [List.length_append, replaceAll, List.length_map, List.length_singleton, h.length_eq]

/-- **Positions collected one by one** are as many as there are steps, and different.

**Proof sketch.** By induction on the steps. The next position is at most the greatest that was not
possible before, and this one replaces it where it has been picked already. -/
theorem gives_collect (steps : Nat) {length count : Nat} {picked : List Nat}
    (h : IsSample length count picked) :
    Gives (collect steps length picked) (IsSample (length + steps) (count + steps)) := by
  induction steps generalizing length count picked with
  | zero => exact gives_pure h
  | succ steps ih =>
    have hposition : Gives (below .w32 (length + 1)) (· < length + 1) :=
      below_lt .w32 (Nat.succ_pos length)
    refine hposition.bind fun position hlt => ?_
    have hrest := ih (h.replaceAll_append hlt)
    rwa [Nat.succ_add_eq_add_succ, Nat.succ_add_eq_add_succ] at hrest

/-! ## Shuffled fronts -/

/-- An exchange of two positions, or none when one of them is outside. -/
theorem swapIfInBounds_perm (positions : Array Nat) (i j : Nat) :
    (positions.swapIfInBounds i j).Perm positions := by
  fun_cases Array.swapIfInBounds with
  | case1 hi hj => exact Array.swap_perm hi hj
  | case2 | case3 => exact .rfl

/-- **A list with a shuffled front** is a permutation of the list. -/
theorem gives_shuffleFront (steps first : Nat) (positions : Array Nat) :
    Gives (shuffleFront steps first positions) fun shuffled => shuffled.Perm positions := by
  induction steps generalizing first positions with
  | zero => exact gives_pure .rfl
  | succ steps ih =>
    intro source
    exact (ih (first + 1) _ _).trans (swapIfInBounds_perm positions _ _)

/-- The front of a permutation of all positions. -/
theorem isSample_take {length count : Nat} (hcount : count ≤ length) {shuffled : Array Nat}
    (h : shuffled.Perm (Array.range length)) :
    IsSample length count (shuffled.toList.take count) := by
  have hperm : shuffled.toList.Perm (List.range length) := by
    simpa using h.toList
  refine ⟨(hperm.nodup_iff.2 List.nodup_range).sublist (List.take_sublist _ _), fun n hn => ?_, ?_⟩
  · exact List.mem_range.1 (hperm.mem_iff.1 (List.mem_of_mem_take hn))
  · rw [List.length_take, hperm.length_eq, List.length_range, Nat.min_eq_left hcount]

/-! ## Positions drawn until they are different -/

/-- When fewer positions have been picked than there are, one of the others is found. -/
theorem spare_lt_and_notMem {length : Nat} {picked : List Nat} (h : picked.length < length) :
    spare length picked < length ∧ spare length picked ∉ picked := by
  have hleft : ∃ n ∈ List.range length, n ∉ picked := by
    by_contra hall
    have hsubset : List.range length ⊆ picked := fun n hn =>
      by_contra fun hnot => hall ⟨n, hn, hnot⟩
    have hle := (List.nodup_range.subperm hsubset).length_le
    rw [List.length_range] at hle
    omega
  have hsome : ((List.range length).find? fun n => n ∉ picked).isSome := by
    simpa using hleft
  obtain ⟨position, hfind⟩ := Option.isSome_iff_exists.1 hsome
  rw [spare, hfind, Option.getD_some]
  exact ⟨List.mem_range.1 (List.mem_of_find?_eq_some hfind), by simpa using List.find?_some hfind⟩

/-- A position that an attempt gives is one of the list. -/
theorem gives_attempt (width : Width) {length : Nat} (h : 0 < length) :
    Gives (attempt width length) fun found => ∀ position ∈ found, position < length := by
  intro source position hposition
  have hlt := (high_lt (word_lt width source) h).1
  rw [attempt, run_bind] at hposition
  generalize ((word width).run source).1 = drawn at hposition hlt
  dsimp only [run_pure] at hposition
  split at hposition
  · exact Option.some.inj hposition ▸ hlt
  · cases hposition

/-- A fresh position is one of the list that has not been picked, after any number of attempts. -/
theorem gives_fresh (width : Width) {length : Nat} {picked : List Nat}
    (h : picked.length < length) (attempts : Nat) :
    Gives (fresh width length picked attempts) fun position =>
      position < length ∧ position ∉ picked := by
  induction attempts with
  | zero => exact gives_pure (spare_lt_and_notMem h)
  | succ attempts ih =>
    have hattempt := gives_attempt width (Nat.zero_lt_of_lt h)
    refine hattempt.bind fun found hfound => ?_
    cases found with
    | none => exact ih
    | some position =>
      by_cases hpicked : position ∈ picked
      · simpa only [if_pos hpicked] using ih
      · simpa only [if_neg hpicked] using gives_pure ⟨hfound position rfl, hpicked⟩

/-- **Positions drawn until they are different** are as many as there are steps.

**Proof sketch.** By induction on the steps. As long as there are fewer positions than the list has,
one is left that is not among them, and an attempt that gives up takes the first one left. -/
theorem gives_collectFresh (width : Width) (steps : Nat) {length count : Nat} {picked : List Nat}
    (h : IsSample length count picked) (hroom : count + steps ≤ length) :
    Gives (collectFresh width length steps picked) (IsSample length (count + steps)) := by
  induction steps generalizing count picked with
  | zero => exact gives_pure h
  | succ steps ih =>
    have hleft : picked.length < length := by
      rw [h.length_eq]
      omega
    refine (gives_fresh width hleft maxAttempts).bind fun position ⟨hlt, hnew⟩ => ?_
    have hpicked : IsSample length (count + 1) (picked ++ [position]) := by
      refine ⟨?_, ?_, by rw [List.length_append, List.length_singleton, h.length_eq]⟩
      · exact h.nodup.append (List.nodup_singleton _) (by simpa using hnew)
      · exact List.forall_mem_append.2 ⟨h.lt, List.forall_mem_singleton.2 hlt⟩
    have hrest := ih hpicked (by omega)
    rwa [Nat.succ_add_eq_add_succ] at hrest

/-! ## Samples -/

/-- **The usual sampler can be relied on.**

**Proof sketch.** By the way that is taken for the length and the amount; each of them gives
different positions below the length, as many as are asked for. -/
theorem isExact_positions : positions.IsExact := by
  intro length amount hle
  unfold positions
  cases strategy length amount with
  | collecting =>
    have hcollect := gives_collect amount (isSample_nil (length - amount))
    rwa [Nat.sub_add_cancel hle, Nat.zero_add] at hcollect
  | shuffling =>
    exact (gives_shuffleFront _ _ _).bind fun shuffled hperm => gives_pure (isSample_take hle hperm)
  | rejecting width =>
    have hfresh := gives_collectFresh width amount (isSample_nil length) (by omega)
    rwa [Nat.zero_add] at hfresh

/-- Positions that are different are strictly ascending when they are sorted. -/
theorem pairwise_lt_mergeSort {positions : List Nat} (h : positions.Nodup) :
    (positions.mergeSort (· ≤ ·)).Pairwise (· < ·) := by
  have hsorted := pairwise_lt_map_mergeSort id (h.map Function.injective_id)
  rwa [List.map_id] at hsorted

/-- Sorting leaves a sample a sample. -/
theorem IsSample.mergeSort {length count : Nat} {positions : List Nat}
    (h : IsSample length count positions) :
    IsSample length count (positions.mergeSort (· ≤ ·)) :=
  ⟨(List.mergeSort_perm _ _).nodup_iff.2 h.nodup, fun n hn => h.lt n (List.mem_mergeSort.1 hn),
    (List.length_mergeSort _).trans h.length_eq⟩

end Draw

end Specimen
