import Rethrow.Proofs.Maximality

/-!
The application of a batch does not depend on the order in which its edits are listed. Edits with the same range are
sorted as they were listed; but they overlap, and what is reported of an overlap is two ranges.
-/
set_option autoImplicit false

namespace Rethrow.Edit

theorem in_order_antisymm (left right : Edit) (before : inOrder left right = true)
    (after : inOrder right left = true) : left.bare = right.bare := by
  rw [in_order_iff] at before after
  exact (bare_eq_iff left right).mpr (by omega)

theorem overlap_bare (edits : List Edit) : overlap? (edits.map bare) = (overlap? edits).map (Prod.map bare bare) := by
  fun_induction overlap? edits with
  | case1 first second rest clash => exact if_pos clash
  | case2 first second rest apart ih => exact (if_neg apart).trans ih
  | case3 edits short =>
      cases edits with
      | nil => rfl
      | cons first rest =>
          cases rest with
          | nil => rfl
          | cons second rest => exact absurd rfl (short first second rest)

theorem overlap_ranges (edits others : List Edit) (same : others.Perm edits) :
    (overlap? (others.mergeSort inOrder)).map (Prod.map bare bare) =
      (overlap? (edits.mergeSort inOrder)).map (Prod.map bare bare) := by
  rw [← overlap_bare, ← overlap_bare,
    merge_sort_ranges inOrder in_order_sorted (fun _ _ => rfl) in_order_antisymm edits others same]

-- Where no neighbours overlap no two edits start together, so the sort has no choice.
theorem merge_sort_unique (edits others : List Edit) (same : others.Perm edits)
    (clear : overlap? (edits.mergeSort inOrder) = none) (otherClear : overlap? (others.mergeSort inOrder) = none) :
    others.mergeSort inOrder = edits.mergeSort inOrder :=
  ((List.mergeSort_perm _ _).trans (same.trans (List.mergeSort_perm _ _).symm)).eq_of_pairwise
    (fun _ _ _ _ before after => absurd before (by omega)) (ordered_increasing _ (in_order_sorted _) otherClear)
    (ordered_increasing _ (in_order_sorted _) clear)

theorem apply_all_of_perm (text : String) (edits others : List Edit) (same : others.Perm edits) :
    applyAll text others = applyAll text edits ∨
      ∃ first second first' second', applyAll text edits = .error (.overlapping first second) ∧
        applyAll text others = .error (.overlapping first' second') ∧ first'.bare = first.bare ∧
        second'.bare = second.bare := by
  have ranges := overlap_ranges edits others same
  rw [apply_all_eq, apply_all_eq]
  cases found : overlap? (edits.mergeSort inOrder) with
  | none =>
      have otherClear : overlap? (others.mergeSort inOrder) = none := by simpa [found] using ranges
      rw [otherClear, merge_sort_unique edits others same found otherClear]
      exact .inl rfl
  | some pair =>
      rw [found, Option.map_some, Option.map_eq_some_iff] at ranges
      obtain ⟨other, otherFound, alike⟩ := ranges
      rw [otherFound]
      exact .inr ⟨pair.1, pair.2, other.1, other.2, rfl, rfl, (Prod.mk.inj alike).1, (Prod.mk.inj alike).2⟩

theorem range_text_of_bare (left right : Edit) (same : left.bare = right.bare) : left.rangeText = right.rangeText := by
  obtain ⟨start, stop⟩ := (bare_eq_iff left right).mp same
  rw [rangeText, rangeText, start, stop]

theorem overlapping_message (first second first' second' : Edit) (left : first'.bare = first.bare)
    (right : second'.bare = second.bare) :
    (EditError.overlapping first' second').message = (EditError.overlapping first second).message := by
  unfold EditError.message
  dsimp only
  rw [range_text_of_bare _ _ left, range_text_of_bare _ _ right]

-- The outcomes are the same but for the texts of edits that overlap, which no message shows.
theorem application_unordered (text : String) (edits others : List Edit) (same : others.Perm edits) :
    (applyAll text others = applyAll text edits ∨
      ∃ first second first' second', applyAll text edits = .error (.overlapping first second) ∧
        applyAll text others = .error (.overlapping first' second') ∧
        (first'.start, first'.stop) = (first.start, first.stop) ∧
        (second'.start, second'.stop) = (second.start, second.stop)) ∧
    (applyAll text others).mapError EditError.message = (applyAll text edits).mapError EditError.message := by
  rcases apply_all_of_perm text edits others same with
    equal | ⟨first, second, first', second', failed, otherFailed, left, right⟩
  · exact ⟨.inl equal, by rw [equal]⟩
  · refine ⟨.inr ⟨first, second, first', second', failed, otherFailed, ?_, ?_⟩, ?_⟩
    · exact Prod.mk.injEq .. ▸ (bare_eq_iff first' first).mp left
    · exact Prod.mk.injEq .. ▸ (bare_eq_iff second' second).mp right
    · rw [failed, otherFailed]
      exact congrArg Except.error (overlapping_message first second first' second' left right)

def tiedBatch : List Edit := [⟨0, 1, "a"⟩, ⟨2, 4, "b"⟩, ⟨2, 4, "c"⟩]

def swappedBatch : List Edit := [⟨0, 1, "a"⟩, ⟨2, 4, "c"⟩, ⟨2, 4, "b"⟩]

theorem tied_batch_unordered :
    swappedBatch.Perm tiedBatch ∧
      applyAll "text" tiedBatch = .error (.overlapping ⟨2, 4, "b"⟩ ⟨2, 4, "c"⟩) ∧
      applyAll "text" swappedBatch = .error (.overlapping ⟨2, 4, "c"⟩ ⟨2, 4, "b"⟩) ∧
      (applyAll "text" swappedBatch).mapError EditError.message =
        (applyAll "text" tiedBatch).mapError EditError.message := by
  have same : swappedBatch.Perm tiedBatch := by decide
  have sorted : tiedBatch.mergeSort inOrder = tiedBatch := List.mergeSort_of_pairwise (by decide)
  have swapped : swappedBatch.mergeSort inOrder = swappedBatch := List.mergeSort_of_pairwise (by decide)
  refine ⟨same, ?_, ?_, (application_unordered "text" tiedBatch swappedBatch same).2⟩
  · rw [apply_all_eq, sorted]
    rfl
  · rw [apply_all_eq, swapped]
    rfl

end Rethrow.Edit
