import Mathlib.Data.List.Basic
import Mathlib.Data.List.Nodup
import Rethrow.Edit

/-!
Which edits of a batch are kept. The kept ones start one after the other and do not overlap. Where any two edits of
the batch are apart or one lies inside the other, exactly the outermost ones are kept.
-/
set_option autoImplicit false

namespace Rethrow.Edit

/-- The inner range lies strictly inside the outer one, at both ends. -/
def Covers (outer inner : Edit) : Prop := outer.start < inner.start ∧ inner.stop < outer.stop

instance (outer inner : Edit) : Decidable (outer.Covers inner) :=
  inferInstanceAs (Decidable (outer.start < inner.start ∧ inner.stop < outer.stop))

/-- Edits of which no two start together, and that overlap only where one covers the other. -/
structure Nested (edits : List Edit) : Prop where
  forward : ∀ edit ∈ edits, edit.start ≤ edit.stop
  pairs : edits.Pairwise fun left right =>
    left.start ≠ right.start ∧ (left.overlaps right = true → left.Covers right ∨ right.Covers left)

def outermost (edits : List Edit) (edit : Edit) : Bool := edits.all fun outer => ¬ outer.Covers edit

theorem outermost_iff (edits : List Edit) (edit : Edit) :
    outermost edits edit = true ↔ ∀ outer ∈ edits, ¬ outer.Covers edit := by
  simp [outermost]

theorem covers_trans (outer middle inner : Edit) (first : outer.Covers middle) (second : middle.Covers inner) :
    outer.Covers inner := ⟨by have := first.1; have := second.1; omega, by have := first.2; have := second.2; omega⟩

theorem overlaps_iff (left right : Edit) :
    left.overlaps right = true ↔
      left.start = right.start ∨ left.start < right.stop ∧ right.start < left.stop := by
  simp [overlaps]

theorem overlaps_comm (left right : Edit) : left.overlaps right = right.overlaps left := by
  rw [Bool.eq_iff_iff, overlaps_iff, overlaps_iff]
  omega

theorem conflicts_iff (edit kept : Edit) :
    edit.conflicts kept = true ↔ edit.overlaps kept = true ∨ kept.start ≤ edit.start ∧ edit.start < kept.stop := by
  simp [conflicts]

theorem widest_first_iff (left right : Edit) :
    widestFirst left right = true ↔ left.start < right.start ∨ left.start = right.start ∧ right.stop ≤ left.stop := by
  simp [widestFirst]

theorem widest_first_pairs (edits : List Edit) :
    (edits.mergeSort widestFirst).Pairwise fun left right => widestFirst left right = true := by
  apply List.pairwise_mergeSort
  · intro a b c
    simp only [widest_first_iff]
    omega
  · intro a b
    rw [Bool.or_eq_true, widest_first_iff, widest_first_iff]
    omega

theorem widest_first_sorted (edits : List Edit) :
    (edits.mergeSort widestFirst).Pairwise fun left right => left.start ≤ right.start := by
  refine (widest_first_pairs edits).imp ?_
  intro left right before
  rw [widest_first_iff] at before
  omega

theorem keep_free (kept : List Edit) (edit : Edit)
    (free : kept.Pairwise fun left right => right.conflicts left = false) :
    (keep kept edit).Pairwise fun left right => right.conflicts left = false := by
  by_cases conflict : kept.any edit.conflicts = true
  · rw [keep, if_pos conflict]
    exact free
  · rw [keep, if_neg conflict, List.pairwise_append]
    refine ⟨free, List.pairwise_singleton _ _, ?_⟩
    intro left held right single
    rw [List.mem_singleton.mp single]
    by_contra clash
    exact conflict (List.any_eq_true.mpr ⟨left, held, by simpa using clash⟩)

theorem foldl_keep_free (kept rest : List Edit)
    (free : kept.Pairwise fun left right => right.conflicts left = false) :
    (rest.foldl keep kept).Pairwise fun left right => right.conflicts left = false := by
  induction rest generalizing kept with
  | nil => exact free
  | cons edit rest ih => exact ih (keep kept edit) (keep_free kept edit free)

theorem select_disjoint_free (edits : List Edit) :
    (selectDisjoint edits).Pairwise fun left right => right.conflicts left = false :=
  foldl_keep_free [] _ .nil

theorem keep_sublist (kept : List Edit) (edit : Edit) : (keep kept edit).Sublist (kept ++ [edit]) := by
  rw [keep]
  split
  · exact List.sublist_append_left kept [edit]
  · exact List.Sublist.refl _

theorem foldl_keep_sublist (kept rest : List Edit) : (rest.foldl keep kept).Sublist (kept ++ rest) := by
  induction rest generalizing kept with
  | nil => simp
  | cons edit rest ih =>
      have step := (keep_sublist kept edit).append (List.Sublist.refl rest)
      rw [List.append_assoc] at step
      exact (ih (keep kept edit)).trans step

theorem select_disjoint_sublist (edits : List Edit) : (selectDisjoint edits).Sublist (edits.mergeSort widestFirst) :=
  foldl_keep_sublist [] _

theorem select_disjoint_apart (edits : List Edit) :
    (selectDisjoint edits).Pairwise fun left right => left.start < right.start ∧ left.overlaps right = false := by
  have sorted := (widest_first_sorted edits).sublist (select_disjoint_sublist edits)
  refine (sorted.and (select_disjoint_free edits)).imp ?_
  intro left right both
  have clear : ¬ right.conflicts left = true := by simp [both.2]
  rw [conflicts_iff, not_or, overlaps_comm] at clear
  have different : left.start ≠ right.start := fun equal => clear.1 ((overlaps_iff left right).mpr (.inl equal))
  have order := both.1
  exact ⟨by omega, by simpa using clear.1⟩

theorem select_disjoint_subset (edits : List Edit) (edit : Edit) (kept : edit ∈ selectDisjoint edits) :
    edit ∈ edits := List.mem_mergeSort.mp ((select_disjoint_sublist edits).subset kept)

theorem foldl_keep_grows (kept rest : List Edit) : kept.Sublist (rest.foldl keep kept) := by
  induction rest generalizing kept with
  | nil => exact List.Sublist.refl _
  | cons edit rest ih =>
      rw [List.foldl_cons, keep]
      split
      · exact ih kept
      · exact (List.sublist_append_left kept [edit]).trans (ih _)

theorem select_disjoint_nil_iff (edits : List Edit) : selectDisjoint edits = [] ↔ edits = [] := by
  constructor
  · intro empty
    cases sorted : edits.mergeSort widestFirst with
    | nil =>
        have same := List.mergeSort_perm edits widestFirst
        rw [sorted] at same
        exact same.nil_eq.symm
    | cons first rest =>
        -- The first edit of all is always kept.
        rw [selectDisjoint, sorted, List.foldl_cons, show keep [] first = [first] from rfl] at empty
        have held := (foldl_keep_grows [first] rest).length_le
        simp [empty] at held
  · rintro rfl
    simp [selectDisjoint]

namespace Nested

theorem perm {edits others : List Edit} (nested : Nested edits) (same : edits.Perm others) : Nested others := by
  refine ⟨fun edit member => nested.forward edit (same.mem_iff.mpr member), ?_⟩
  refine (same.pairwise_iff ?_).mp nested.pairs
  intro left right pair
  refine ⟨pair.1.symm, fun overlapping => ?_⟩
  exact (pair.2 (by rw [overlaps_comm]; exact overlapping)).symm

theorem sorted {edits : List Edit} (nested : Nested edits) :
    (edits.mergeSort widestFirst).Pairwise fun left right => left.start < right.start := by
  have distinct := (nested.perm (List.mergeSort_perm edits widestFirst).symm).pairs
  refine (List.Pairwise.and (widest_first_sorted edits) distinct).imp ?_
  intro left right both
  have := both.1
  have := both.2.1
  omega

end Nested

theorem select_disjoint_perm (edits others : List Edit) (nested : Nested edits) (same : others.Perm edits) :
    selectDisjoint others = selectDisjoint edits := by
  have both : (others.mergeSort widestFirst).Perm (edits.mergeSort widestFirst) :=
    ((List.mergeSort_perm others widestFirst).trans same).trans (List.mergeSort_perm edits widestFirst).symm
  have equal : others.mergeSort widestFirst = edits.mergeSort widestFirst :=
    both.eq_of_pairwise (fun left right _ _ before after => absurd before (by omega))
      (nested.perm same.symm).sorted nested.sorted
  rw [selectDisjoint, selectDisjoint, equal]

theorem exists_outermost (edits : List Edit) (edit outer : Edit)
    (sorted : edits.Pairwise fun left right => left.start < right.start) (member : outer ∈ edits)
    (covers : outer.Covers edit) : ∃ first ∈ edits, first.Covers edit ∧ outermost edits first = true := by
  have present : (edits.find? fun other => other.Covers edit).isSome := by
    rw [List.find?_isSome]
    exact ⟨outer, member, by simpa using covers⟩
  obtain ⟨first, found⟩ := Option.isSome_iff_exists.mp present
  obtain ⟨holds, before, after, split, none⟩ := List.find?_eq_some_iff_append.mp found
  have firstCovers : first.Covers edit := by simpa using holds
  refine ⟨first, List.mem_of_find?_eq_some found, firstCovers, (outermost_iff edits first).mpr ?_⟩
  intro other held above
  subst split
  rcases List.mem_append.mp held with earlier | later
  · have covered := covers_trans other first edit above firstCovers
    simpa [covered] using none other earlier
  · rcases List.mem_cons.mp later with rfl | beyond
    · exact absurd above.1 (Int.lt_irrefl _)
    · have order := (List.pairwise_cons.mp (List.pairwise_append.mp sorted).2.1).1 other beyond
      have := above.1
      omega

theorem conflicts_outermost_iff (done rest : List Edit) (edit : Edit) (nested : Nested (done ++ edit :: rest))
    (sorted : (done ++ edit :: rest).Pairwise fun left right => left.start < right.start) :
    (done.filter (outermost (done ++ edit :: rest))).any edit.conflicts = true ↔
      ¬ outermost (done ++ edit :: rest) edit = true := by
  have earlier : ∀ kept ∈ done, kept.start < edit.start := fun kept held =>
    (List.pairwise_append.mp sorted).2.2 kept held edit List.mem_cons_self
  rw [outermost_iff]
  constructor
  · intro conflict clear
    obtain ⟨kept, held, clash⟩ := List.any_eq_true.mp conflict
    have inDone := (List.mem_filter.mp held).1
    have before := earlier kept inDone
    have pair := (List.pairwise_append.mp nested.pairs).2.2 kept inDone edit List.mem_cons_self
    have forward := nested.forward edit (by simp)
    have overlapping : kept.overlaps edit = true := by
      rcases (conflicts_iff edit kept).mp clash with direct | inside
      · rw [overlaps_comm]
        exact direct
      · exact (overlaps_iff kept edit).mpr (.inr ⟨by omega, inside.2⟩)
    rcases pair.2 overlapping with covers | covered
    · exact clear kept (List.mem_append_left _ inDone) covers
    · have := covered.1
      omega
  · intro covered
    push Not at covered
    obtain ⟨outer, member, covers⟩ := covered
    obtain ⟨first, held, firstCovers, top⟩ := exists_outermost _ edit outer sorted member covers
    have inDone : first ∈ done := by
      rcases List.mem_append.mp held with here | later
      · exact here
      · rcases List.mem_cons.mp later with rfl | beyond
        · exact absurd firstCovers.1 (Int.lt_irrefl _)
        · have order := (List.pairwise_cons.mp (List.pairwise_append.mp sorted).2.1).1 first beyond
          have := firstCovers.1
          omega
    refine List.any_eq_true.mpr ⟨first, List.mem_filter.mpr ⟨inDone, top⟩, (conflicts_iff edit first).mpr (.inr ?_)⟩
    have forward := nested.forward edit (by simp)
    exact ⟨Int.le_of_lt firstCovers.1, by have := firstCovers.2; omega⟩

theorem foldl_keep_outermost (done rest : List Edit) (nested : Nested (done ++ rest))
    (sorted : (done ++ rest).Pairwise fun left right => left.start < right.start) :
    rest.foldl keep (done.filter (outermost (done ++ rest))) = (done ++ rest).filter (outermost (done ++ rest)) := by
  induction rest generalizing done with
  | nil => simp
  | cons edit rest ih =>
      have step : keep (done.filter (outermost (done ++ edit :: rest))) edit =
          (done ++ [edit]).filter (outermost (done ++ edit :: rest)) := by
        have kept := conflicts_outermost_iff done rest edit nested sorted
        by_cases top : outermost (done ++ edit :: rest) edit = true
        · rw [keep, if_neg (fun conflict => kept.mp conflict top)]
          simp [List.filter_append, top]
        · rw [keep, if_pos (kept.mpr top)]
          simp [List.filter_append, top]
      have shift : done ++ edit :: rest = (done ++ [edit]) ++ rest := by simp
      rw [List.foldl_cons, step, shift]
      rw [shift] at nested sorted
      exact ih (done ++ [edit]) nested sorted

theorem mem_select_disjoint_iff (edits : List Edit) (edit : Edit) (nested : Nested edits) :
    edit ∈ selectDisjoint edits ↔ edit ∈ edits ∧ ∀ outer ∈ edits, ¬ outer.Covers edit := by
  have same := List.mergeSort_perm edits widestFirst
  have chosen := foldl_keep_outermost [] (edits.mergeSort widestFirst) (by simpa using nested.perm same.symm)
    (by simpa using nested.sorted)
  simp only [List.filter_nil, List.nil_append] at chosen
  rw [selectDisjoint, chosen, List.mem_filter, outermost_iff]
  simp only [same.mem_iff]

theorem exists_selected (edits : List Edit) (edit : Edit) (nested : Nested edits) (member : edit ∈ edits) :
    edit ∈ selectDisjoint edits ∨ ∃ outer ∈ selectDisjoint edits, outer.Covers edit := by
  by_cases clear : ∀ outer ∈ edits, ¬ outer.Covers edit
  · exact .inl ((mem_select_disjoint_iff edits edit nested).mpr ⟨member, clear⟩)
  · push Not at clear
    obtain ⟨outer, held, covers⟩ := clear
    have same := List.mergeSort_perm edits widestFirst
    obtain ⟨first, listed, firstCovers, top⟩ :=
      exists_outermost _ edit outer nested.sorted (same.mem_iff.mpr held) covers
    refine .inr ⟨first, (mem_select_disjoint_iff edits first nested).mpr ⟨same.mem_iff.mp listed, ?_⟩, firstCovers⟩
    simpa only [outermost_iff, same.mem_iff] using top

end Rethrow.Edit
