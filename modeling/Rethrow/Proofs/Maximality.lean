import Rethrow.Proofs.Application

/-!
The choice of edits from any batch, with inverted ranges too. What was chosen is chosen again, and which ranges are
chosen does not depend on the order of the batch. Where no range is inverted the choice is as large as it can be:
every edit of the batch overlaps one that is kept.
-/
set_option autoImplicit false

namespace Rethrow.Edit

theorem foldl_keep_eq (kept rest : List Edit)
    (free : (kept ++ rest).Pairwise fun left right => right.conflicts left = false) :
    rest.foldl keep kept = kept ++ rest := by
  induction rest generalizing kept with
  | nil => simp
  | cons edit rest ih =>
      have clear : ¬ kept.any edit.conflicts = true := by
        intro conflict
        obtain ⟨left, held, clash⟩ := List.any_eq_true.mp conflict
        have apart := (List.pairwise_append.mp free).2.2 left held edit List.mem_cons_self
        rw [clash] at apart
        cases apart
      rw [List.foldl_cons, keep, if_neg clear, ih (kept ++ [edit]) (by simpa using free)]
      simp

-- That no two overlap is not enough: an edit may conflict with an inverted one that it does not overlap.
theorem select_disjoint_idem (edits : List Edit) : selectDisjoint (selectDisjoint edits) = selectDisjoint edits := by
  have sorted : (selectDisjoint edits).mergeSort widestFirst = selectDisjoint edits := by
    refine List.mergeSort_of_pairwise ((select_disjoint_apart edits).imp ?_)
    intro left right both
    exact (widest_first_iff left right).mpr (.inl both.1)
  conv_lhs => rw [selectDisjoint, sorted]
  exact foldl_keep_eq [] _ (select_disjoint_free edits)

def bare (edit : Edit) : Edit := { edit with text := "" }

theorem keep_bare (kept : List Edit) (edit : Edit) : (keep kept edit).map bare = keep (kept.map bare) edit.bare := by
  have same : (kept.map bare).any edit.bare.conflicts = kept.any edit.conflicts := List.any_map
  rw [keep, keep, same]
  split
  · rfl
  · exact List.map_append

theorem foldl_keep_bare (kept rest : List Edit) :
    (rest.foldl keep kept).map bare = (rest.map bare).foldl keep (kept.map bare) := by
  induction rest generalizing kept with
  | nil => rfl
  | cons edit rest ih => rw [List.foldl_cons, ih, keep_bare, List.map_cons, List.foldl_cons]

theorem bare_eq_iff (left right : Edit) :
    left.bare = right.bare ↔ left.start = right.start ∧ left.stop = right.stop := by
  simp [bare]

theorem merge_sort_ranges (before : Edit → Edit → Bool)
    (sorted : ∀ edits : List Edit, (edits.mergeSort before).Pairwise fun left right => before left right = true)
    (blind : ∀ left right : Edit, before left.bare right.bare = before left right)
    (antisymm : ∀ left right : Edit, before left right = true → before right left = true → left.bare = right.bare)
    (edits others : List Edit) (same : others.Perm edits) :
    (others.mergeSort before).map bare = (edits.mergeSort before).map bare := by
  have pairs : ∀ batch : List Edit,
      ((batch.mergeSort before).map bare).Pairwise fun left right => before left right = true := fun batch =>
    List.pairwise_map.mpr ((sorted batch).imp fun {left right} order => (blind left right).trans order)
  refine List.Perm.eq_of_pairwise ?_ (pairs others) (pairs edits) ?_
  · intro left right leftMember rightMember order back
    obtain ⟨first, _, rfl⟩ := List.mem_map.mp leftMember
    obtain ⟨second, _, rfl⟩ := List.mem_map.mp rightMember
    rw [blind] at order back
    exact antisymm first second order back
  · exact (((List.mergeSort_perm _ _).trans same).trans (List.mergeSort_perm _ _).symm).map bare

theorem widest_first_antisymm (left right : Edit) (before : widestFirst left right = true)
    (after : widestFirst right left = true) : left.bare = right.bare := by
  rw [widest_first_iff] at before after
  exact (bare_eq_iff left right).mpr (by omega)

theorem select_disjoint_ranges (edits others : List Edit) (same : others.Perm edits) :
    (selectDisjoint others).map bare = (selectDisjoint edits).map bare := by
  have sorted := merge_sort_ranges widestFirst widest_first_pairs (fun _ _ => rfl) widest_first_antisymm edits others
    same
  rw [selectDisjoint, selectDisjoint, foldl_keep_bare, foldl_keep_bare, sorted]

theorem foldl_keep_cause (kept rest : List Edit)
    (sorted : (kept ++ rest).Pairwise fun left right => widestFirst left right = true) (edit : Edit)
    (member : edit ∈ rest) :
    ∃ other ∈ rest.foldl keep kept, other = edit ∨ edit.conflicts other = true ∧ widestFirst other edit = true := by
  induction rest generalizing kept with
  | nil => simp at member
  | cons head rest ih =>
      rw [List.foldl_cons]
      rcases List.mem_cons.mp member with rfl | later
      · have grows := (foldl_keep_grows (keep kept edit) rest).subset
        by_cases conflict : kept.any edit.conflicts = true
        · obtain ⟨other, held, clash⟩ := List.any_eq_true.mp conflict
          have before := (List.pairwise_append.mp sorted).2.2 other held edit List.mem_cons_self
          rw [keep, if_pos conflict] at grows ⊢
          exact ⟨other, grows held, .inr ⟨clash, before⟩⟩
        · rw [keep, if_neg conflict] at grows ⊢
          exact ⟨edit, grows (by simp), .inl rfl⟩
      · refine ih (keep kept head) ?_ later
        refine List.Pairwise.sublist ((keep_sublist kept head).append (List.Sublist.refl rest)) ?_
        simpa using sorted

theorem select_disjoint_cause (edits : List Edit) (edit : Edit) (member : edit ∈ edits) :
    ∃ kept ∈ selectDisjoint edits, kept = edit ∨ edit.conflicts kept = true ∧ widestFirst kept edit = true :=
  foldl_keep_cause [] _ (by simpa using widest_first_pairs edits) edit (List.mem_mergeSort.mpr member)

theorem overlaps_of_conflict (edit kept : Edit) (forward : edit.start ≤ edit.stop)
    (conflict : edit.conflicts kept = true) : edit.overlaps kept = true := by
  rw [conflicts_iff, overlaps_iff] at conflict
  rw [overlaps_iff]
  omega

theorem contains_of_conflict (edit kept : Edit) (forward : edit.start ≤ edit.stop)
    (conflict : edit.conflicts kept = true) (before : widestFirst kept edit = true)
    (nested : (kept.start ≤ edit.start ∧ edit.stop ≤ kept.stop) ∨ (edit.start ≤ kept.start ∧ kept.stop ≤ edit.stop) ∨
      kept.stop ≤ edit.start ∨ edit.stop ≤ kept.start) :
    kept.start ≤ edit.start ∧ edit.stop ≤ kept.stop := by
  rw [conflicts_iff, overlaps_iff] at conflict
  rw [widest_first_iff] at before
  omega

-- What is said of all edits at the end matters for those that are dropped: one that is kept overlaps itself and lies
-- in its own range.
theorem selection_maximal (edits : List Edit) :
    (selectDisjoint edits).Sublist (edits.mergeSort widestFirst) ∧
    ((selectDisjoint edits).Pairwise fun left right => left.start < right.start ∧ left.overlaps right = false) ∧
    (∀ text first second, applyAll text (selectDisjoint edits) ≠ .error (.overlapping first second)) ∧
    selectDisjoint (selectDisjoint edits) = selectDisjoint edits ∧
    (∀ others : List Edit, others.Perm edits →
      (selectDisjoint others).map (fun edit => (edit.start, edit.stop)) =
        (selectDisjoint edits).map fun edit => (edit.start, edit.stop)) ∧
    ((∀ edit ∈ edits, edit.start ≤ edit.stop) →
      (∀ edit ∈ edits, ∃ kept ∈ selectDisjoint edits, edit.overlaps kept = true ∧ kept.start ≤ edit.start) ∧
      ((∀ left ∈ edits, ∀ right ∈ edits,
          (left.start ≤ right.start ∧ right.stop ≤ left.stop) ∨ (right.start ≤ left.start ∧ left.stop ≤ right.stop) ∨
            left.stop ≤ right.start ∨ right.stop ≤ left.start) →
        ∀ edit ∈ edits, ∃ kept ∈ selectDisjoint edits, kept.start ≤ edit.start ∧ edit.stop ≤ kept.stop)) := by
  have apart := select_disjoint_apart edits
  refine ⟨select_disjoint_sublist edits, apart, ?_, select_disjoint_idem edits, ?_, ?_⟩
  · intro text
    exact apply_all_not_overlapping text _ (apart.imp fun both => both.2)
  · intro others same
    have bared := select_disjoint_ranges edits others same
    have ranges := congrArg (List.map fun edit : Edit => (edit.start, edit.stop)) bared
    rwa [List.map_map, List.map_map] at ranges
  · intro forward
    constructor
    · intro edit member
      obtain ⟨kept, held, rfl | ⟨conflict, before⟩⟩ := select_disjoint_cause edits edit member
      · exact ⟨kept, held, (overlaps_iff kept kept).mpr (.inl rfl), Int.le_refl _⟩
      · rw [widest_first_iff] at before
        exact ⟨kept, held, overlaps_of_conflict edit kept (forward edit member) conflict, by omega⟩
    · intro nested edit member
      obtain ⟨kept, held, rfl | ⟨conflict, before⟩⟩ := select_disjoint_cause edits edit member
      · exact ⟨kept, held, Int.le_refl _, Int.le_refl _⟩
      · exact ⟨kept, held, contains_of_conflict edit kept (forward edit member) conflict before
          (nested kept (select_disjoint_subset edits kept held) edit member)⟩

def nestedBatch : List Edit := [⟨9, 9, "d"⟩, ⟨3, 4, "c"⟩, ⟨0, 0, "b"⟩, ⟨0, 9, "a"⟩]

theorem nested_batch_contained :
    (∀ edit ∈ nestedBatch, edit.start ≤ edit.stop) ∧
      ∀ edit ∈ nestedBatch, ∃ kept ∈ selectDisjoint nestedBatch, kept.start ≤ edit.start ∧ edit.stop ≤ kept.stop :=
  ⟨by decide, ((selection_maximal nestedBatch).2.2.2.2.2 (by decide)).2 (by decide)⟩

end Rethrow.Edit
