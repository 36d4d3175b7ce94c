set_option autoImplicit false

/-!
# Sorted lists of different things

## Main results

* `Specimen.pairwise_lt_map_mergeSort` — what is sorted by keys that are different ascends strictly.
-/

namespace Specimen

/-- Elements with different keys have strictly ascending keys when they are sorted by them. -/
theorem pairwise_lt_map_mergeSort {α β : Type} [LE β] [LT β] [DecidableLE β] [Std.IsLinearOrder β]
    [Std.LawfulOrderLT β] (key : α → β) {elements : List α} (h : (elements.map key).Nodup) :
    ((elements.mergeSort fun a b => key a ≤ key b).map key).Pairwise (· < ·) := by
  have hsorted : (elements.mergeSort fun a b => key a ≤ key b).Pairwise
      fun a b => decide (key a ≤ key b) = true := by
    refine List.pairwise_mergeSort (fun a b c hab hbc => ?_) (fun a b => ?_) elements
    · exact decide_eq_true (Std.le_trans (of_decide_eq_true hab) (of_decide_eq_true hbc))
    · rw [Bool.or_eq_true, decide_eq_true_iff, decide_eq_true_iff]
      exact Std.le_total
  have hnodup : ((elements.mergeSort fun a b => key a ≤ key b).map key).Nodup :=
    ((List.mergeSort_perm elements _).map key).nodup_iff.2 h
  refine List.pairwise_map.2 ((hsorted.and (List.pairwise_map.1 hnodup)).imp fun {a b} hab => ?_)
  exact Std.lt_of_le_of_ne (of_decide_eq_true hab.1) hab.2

end Specimen
