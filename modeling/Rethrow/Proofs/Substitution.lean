import Rethrow.Proofs.Replacement

/-!
The application of a batch, said without the order in which its edits are made. It is refused exactly if two ranges
overlap or a range lies outside the text; otherwise all ranges are replaced at once. Of several ranges outside the
text the last one is reported.
-/
set_option autoImplicit false

namespace Rethrow

/-- A stretch of a list, by where it starts and stops, and what is to take its place. -/
structure Part (α : Type) where
  start : Nat
  stop : Nat
  filling : List α

/-- What a list becomes from `position` on when the parts are replaced: the elements between them stay. -/
def substitute {α : Type} (whole : List α) (position : Nat) : List (Part α) → List α
  | [] => whole.drop position
  | part :: rest => (whole.take part.start).drop position ++ part.filling ++ substitute whole part.stop rest

namespace Edit
open Utf8

def part (edit : Edit) : Part UInt8 := ⟨edit.start.toNat, edit.stop.toNat, encode edit.text⟩

theorem Replaces.eq_substitute {position : Nat} {bytes result : Bytes} {edits : List Edit}
    (replaced : Replaces position bytes edits result) (front : Bytes) (place : position = front.length) :
    result = substitute (front ++ bytes) position (edits.map part) := by
  induction replaced generalizing front with
  | rest position bytes => rw [place, List.map_nil, substitute, List.drop_left]
  | edit position gap taken bytes edit edits result start stop later ih =>
      have shape : front ++ (gap ++ taken ++ bytes) = front ++ gap ++ taken ++ bytes := by
        simp only [List.append_assoc]
      have starts : edit.part.start = (front ++ gap).length := by
        rw [List.length_append]
        dsimp only [part]
        omega
      have stops : edit.part.stop = position + gap.length + taken.length := by
        dsimp only [part]
        omega
      have kept : ((front ++ gap ++ taken ++ bytes).take edit.part.start).drop position = gap := by
        rw [starts, List.append_assoc (front ++ gap), List.take_left, place, List.drop_left]
      rw [List.map_cons, substitute, shape, kept, stops]
      exact congrArg _ (ih (front ++ gap ++ taken) (by simp only [List.length_append]; omega))

theorem ordered_clear (edits : List Edit) (sorted : edits.Pairwise fun left right => inOrder left right = true)
    (clear : overlap? edits = none) (forward : ∀ edit ∈ edits, edit.start ≤ edit.stop) :
    edits.Pairwise fun left right => left.overlaps right = false := by
  refine ((ordered_increasing edits sorted clear).and (ordered_apart edits sorted clear forward)).imp ?_
  intro left right both
  rw [← Bool.not_eq_true, overlaps_iff]
  omega

theorem overlap_of_suffix (before edits : List Edit) (clear : overlap? (before ++ edits) = none) :
    overlap? edits = none := by
  induction before with
  | nil => exact clear
  | cons first before ih =>
      refine ih ?_
      cases rest : before ++ edits with
      | nil => rfl
      | cons second others =>
          rw [List.cons_append, rest, overlap?] at clear
          split at clear
          · cases clear
          · exact clear

-- Each edit is checked against the bytes as they are by then. That comes to the same as a check against the original
-- bytes, since the edits behind it have changed nothing before their own starts.
theorem splice_all_returns_iff (edits : List Edit) (bytes : Bytes)
    (sorted : edits.Pairwise fun left right => inOrder left right = true) (clear : overlap? edits = none) :
    (∃ result, spliceAll bytes edits.reverse = .ok result) ↔ ∀ edit ∈ edits, edit.Within bytes.length := by
  constructor
  · rintro ⟨result, done⟩
    exact splice_all_within edits bytes result sorted clear done
  · intro within
    obtain ⟨result, done, _⟩ := splice_all_succeeds edits bytes sorted clear within
    exact ⟨result, done⟩

theorem splice_all_error (edits : List Edit) (bytes : Bytes) (error : EditError)
    (failed : spliceAll bytes edits = .error error) :
    ∃ done last rest buffer, edits = done ++ last :: rest ∧ spliceAll bytes done = .ok buffer ∧
      last.fits buffer.length = false ∧ error = .outside last buffer.length := by
  induction edits generalizing bytes with
  | nil => cases failed
  | cons edit edits ih =>
      rw [spliceAll] at failed
      split at failed
      · rename_i fits
        obtain ⟨done, last, rest, buffer, rfl, made, unfit, rfl⟩ := ih _ failed
        refine ⟨edit :: done, last, rest, buffer, rfl, ?_, unfit, rfl⟩
        rw [spliceAll, if_pos fits, made]
      · rename_i unfit
        cases failed
        exact ⟨[], edit, edits, bytes, rfl, rfl, by simpa using unfit, rfl⟩

theorem splice_all_refuses (edits : List Edit) (bytes : Bytes) (error : EditError)
    (sorted : edits.Pairwise fun left right => inOrder left right = true) (clear : overlap? edits = none)
    (failed : spliceAll bytes edits.reverse = .error error) :
    ∃ before last after size, edits = before ++ last :: after ∧ error = .outside last size ∧
      ¬ last.Within bytes.length ∧ ∀ edit ∈ after, edit.Within bytes.length := by
  obtain ⟨done, last, rest, buffer, shape, made, unfit, rfl⟩ := splice_all_error edits.reverse bytes error failed
  have split : edits = rest.reverse ++ last :: done.reverse := by
    rw [← List.reverse_reverse edits, shape]
    simp
  subst split
  have sortedLast := (List.pairwise_append.mp sorted).2.1
  have clearLast := overlap_of_suffix _ _ clear
  have within : ∀ edit ∈ done.reverse, edit.Within bytes.length :=
    (splice_all_returns_iff done.reverse bytes (List.pairwise_cons.mp sortedLast).2
      (overlap_of_suffix [last] _ clearLast)).mp ⟨buffer, by rw [List.reverse_reverse, made]⟩
  refine ⟨rest.reverse, last, done.reverse, buffer.length, rfl, rfl, ?_, within⟩
  intro held
  -- Were it within the bytes, it could have been made after the others.
  obtain ⟨result, all⟩ := (splice_all_returns_iff (last :: done.reverse) bytes sortedLast clearLast).mpr
    (List.forall_mem_cons.mpr ⟨held, within⟩)
  rw [List.reverse_cons, List.reverse_reverse, splice_all_append, made] at all
  simp [bind, Except.bind, spliceAll, unfit] at all

-- All that can come of a batch. Every statement about outcomes goes through these three cases.
theorem apply_all_cases (text : String) (edits : List Edit) :
    (∃ first second, overlap? (edits.mergeSort inOrder) = some (first, second) ∧
      applyAll text edits = .error (.overlapping first second)) ∨
    (overlap? (edits.mergeSort inOrder) = none ∧ ∃ before last after size,
      edits.mergeSort inOrder = before ++ last :: after ∧ ¬ last.Within (encode text).length ∧
        (∀ edit ∈ after, edit.Within (encode text).length) ∧ applyAll text edits = .error (.outside last size)) ∨
    overlap? (edits.mergeSort inOrder) = none ∧ (∀ edit ∈ edits, edit.Within (encode text).length) ∧
      applyAll text edits =
        (decode (substitute (encode text) 0 ((edits.mergeSort inOrder).map part))).mapError .undecodable := by
  have sorted := in_order_sorted edits
  rw [apply_all_eq]
  cases clear : overlap? (edits.mergeSort inOrder) with
  | some pair => exact .inl ⟨pair.1, pair.2, rfl, rfl⟩
  | none =>
      cases made : spliceAll (encode text) (edits.mergeSort inOrder).reverse with
      | error error =>
          obtain ⟨before, last, after, size, shape, rfl, stray, within⟩ := splice_all_refuses _ _ _ sorted clear made
          exact .inr (.inl ⟨rfl, before, last, after, size, shape, stray, within, rfl⟩)
      | ok bytes =>
          have within := splice_all_within _ _ _ sorted clear made
          have replaced := splice_all_replaces _ _ _ sorted clear made
          refine .inr (.inr ⟨rfl, fun edit member => within edit (List.mem_mergeSort.mpr member), ?_⟩)
          rw [replaced.eq_substitute [] rfl]
          rfl

theorem decode_refused (bytes : Bytes) (error : EditError)
    (refused : (decode bytes).mapError EditError.undecodable = .error error) : ∃ cause, error = .undecodable cause := by
  cases read : decode bytes with
  | ok text => simp [read, Except.mapError] at refused
  | error cause =>
      simp only [read, Except.mapError, Except.error.injEq] at refused
      exact ⟨cause, refused.symm⟩

theorem pairs_apart_of_perm {edits others : List Edit} (same : edits.Perm others)
    (apart : edits.Pairwise fun left right => left.overlaps right = false) :
    others.Pairwise fun left right => left.overlaps right = false :=
  (same.pairwise_iff fun {left right} clear => by rw [overlaps_comm]; exact clear).mp apart

theorem overlap_sorted_eq_none (edits : List Edit)
    (apart : edits.Pairwise fun left right => left.overlaps right = false) :
    overlap? (edits.mergeSort inOrder) = none :=
  overlap_eq_none _ (pairs_apart_of_perm (List.mergeSort_perm edits inOrder).symm apart)

theorem order_unique (edits ordered : List Edit) (apart : edits.Pairwise fun left right => left.overlaps right = false)
    (same : ordered.Perm edits) (sorted : ordered.Pairwise fun left right => left.start ≤ right.start) :
    edits.mergeSort inOrder = ordered := by
  have increasing := ordered_increasing _ (in_order_sorted edits) (overlap_sorted_eq_none edits apart)
  have strict : ordered.Pairwise fun left right => left.start < right.start := by
    refine (sorted.and (pairs_apart_of_perm same.symm apart)).imp ?_
    intro left right both
    obtain ⟨order, clear⟩ := both
    rw [← Bool.not_eq_true, overlaps_iff] at clear
    omega
  exact ((List.mergeSort_perm edits inOrder).trans same.symm).eq_of_pairwise
    (fun left right _ _ before after => absurd before (by omega)) increasing strict

theorem apply_all_not_overlapping (text : String) (edits : List Edit)
    (apart : edits.Pairwise fun left right => left.overlaps right = false) (first second : Edit) :
    applyAll text edits ≠ .error (.overlapping first second) := by
  have clear := overlap_sorted_eq_none edits apart
  intro refused
  rcases apply_all_cases text edits with ⟨_, _, found, _⟩ | ⟨_, _, _, _, _, _, _, _, outcome⟩ | ⟨_, _, outcome⟩
  · rw [clear] at found
    cases found
  · rw [outcome] at refused
    cases refused
  · obtain ⟨_, same⟩ := decode_refused _ _ (outcome ▸ refused)
    cases same

theorem apply_all_within (text : String) (edits ordered : List Edit)
    (within : ∀ edit ∈ edits, edit.Within (encode text).length)
    (apart : edits.Pairwise fun left right => left.overlaps right = false) (same : ordered.Perm edits)
    (sorted : ordered.Pairwise fun left right => left.start ≤ right.start) :
    applyAll text edits = (decode (substitute (encode text) 0 (ordered.map part))).mapError .undecodable := by
  rcases apply_all_cases text edits with ⟨_, _, _, outcome⟩ | ⟨_, _, last, _, _, shape, stray, _⟩ | ⟨_, _, outcome⟩
  · exact absurd outcome (apply_all_not_overlapping text edits apart _ _)
  · have held : last ∈ edits.mergeSort inOrder := by simp [shape]
    exact absurd (within last (List.mem_mergeSort.mp held)) stray
  · rw [outcome, order_unique edits ordered apart same sorted]

theorem apply_all_checked_iff (text : String) (edits : List Edit) :
    ((∀ first second, applyAll text edits ≠ .error (.overlapping first second)) ∧
      ∀ edit size, applyAll text edits ≠ .error (.outside edit size)) ↔
    (∀ edit ∈ edits, edit.Within (encode text).length) ∧
      edits.Pairwise fun left right => left.overlaps right = false := by
  have permuted := List.mergeSort_perm edits inOrder
  have sorted := in_order_sorted edits
  constructor
  · rintro ⟨disjoint, inside⟩
    rcases apply_all_cases text edits with ⟨_, _, _, outcome⟩ | ⟨_, _, _, _, _, _, _, _, outcome⟩ | ⟨clear, within, _⟩
    · exact absurd outcome (disjoint _ _)
    · exact absurd outcome (inside _ _)
    · have apart := ordered_clear _ sorted clear fun edit member => (within edit (permuted.mem_iff.mp member)).2.1
      exact ⟨within, pairs_apart_of_perm permuted apart⟩
  · rintro ⟨within, apart⟩
    refine ⟨apply_all_not_overlapping text edits apart, ?_⟩
    intro edit size refused
    have starts := sorted.imp fun {left right} order => by
      have := (in_order_iff left right).mp order
      show left.start ≤ right.start
      omega
    rw [apply_all_within text edits _ within apart permuted starts] at refused
    obtain ⟨_, same⟩ := decode_refused _ _ refused
    cases same

theorem apply_all_outside (text : String) (edits : List Edit) (last : Edit) (size : Nat)
    (refused : applyAll text edits = .error (.outside last size)) :
    last ∈ edits ∧ ¬ last.Within (encode text).length ∧
      ∀ other ∈ edits, ¬ other.Within (encode text).length → inOrder other last = true := by
  rcases apply_all_cases text edits with
    ⟨_, _, _, outcome⟩ | ⟨_, before, found, after, _, shape, stray, within, outcome⟩ | ⟨_, _, outcome⟩
  · rw [outcome] at refused
    cases refused
  · rw [outcome] at refused
    cases refused
    have sorted := in_order_sorted edits
    have permuted := List.mergeSort_perm edits inOrder
    rw [shape] at sorted permuted
    refine ⟨permuted.mem_iff.mp (by simp), stray, ?_⟩
    intro other member beyond
    rcases List.mem_append.mp (permuted.mem_iff.mpr member) with earlier | later
    · exact (List.pairwise_append.mp sorted).2.2 other earlier last List.mem_cons_self
    · rcases List.mem_cons.mp later with rfl | behind
      · exact (in_order_iff other other).mpr (.inr ⟨rfl, Int.le_refl _⟩)
      · exact absurd (within other behind) beyond
  · obtain ⟨_, same⟩ := decode_refused _ _ (outcome ▸ refused)
    cases same

theorem application_exact (text : String) (edits : List Edit) :
    (((∀ first second, applyAll text edits ≠ .error (.overlapping first second)) ∧
        ∀ edit size, applyAll text edits ≠ .error (.outside edit size)) ↔
      (∀ edit ∈ edits, edit.Within (encode text).length) ∧
        edits.Pairwise fun left right => left.overlaps right = false) ∧
    ((∀ edit ∈ edits, edit.Within (encode text).length) →
      (edits.Pairwise fun left right => left.overlaps right = false) →
      ∀ ordered : List Edit, ordered.Perm edits → (ordered.Pairwise fun left right => left.start ≤ right.start) →
        (∃ fixed, encode fixed = substitute (encode text) 0 (ordered.map part) ∧ applyAll text edits = .ok fixed) ∨
        (∀ fixed, encode fixed ≠ substitute (encode text) 0 (ordered.map part)) ∧
          ∃ error, decode (substitute (encode text) 0 (ordered.map part)) = .error error ∧
            applyAll text edits = .error (.undecodable error)) ∧
    ∀ last size, applyAll text edits = .error (.outside last size) →
      last ∈ edits ∧ ¬ last.Within (encode text).length ∧
        ∀ other ∈ edits, ¬ other.Within (encode text).length →
          other.start < last.start ∨ other.start = last.start ∧ other.stop ≤ last.stop := by
  refine ⟨apply_all_checked_iff text edits, ?_, ?_⟩
  · intro within apart ordered same sorted
    rw [apply_all_within text edits ordered within apart same sorted]
    rcases decode_cases (substitute (encode text) 0 (ordered.map part)) with ⟨fixed, whole, read⟩ | ⟨none, error, read⟩
    · exact .inl ⟨fixed, whole, by rw [read]; rfl⟩
    · exact .inr ⟨none, error, read, by rw [read]; rfl⟩
  · intro last size refused
    obtain ⟨member, outside, greatest⟩ := apply_all_outside text edits last size refused
    exact ⟨member, outside, fun other held beyond => (in_order_iff other last).mp (greatest other held beyond)⟩

def splitBatch : List Edit := [⟨3, 3, "!"⟩, ⟨2, 3, "x"⟩]

def strayBatch : List Edit := [⟨-1, 0, "x"⟩, ⟨3, 2, "y"⟩, ⟨9, 9, "z"⟩]

theorem stray_batch_refused : applyAll "aéb" strayBatch = .error (.outside ⟨9, 9, "z"⟩ 4) := by
  have sorted : strayBatch.mergeSort inOrder = strayBatch := List.mergeSort_of_pairwise (by decide)
  rw [apply_all_eq, sorted]
  decide +kernel

theorem bad_batches_refused :
    ((∀ edit ∈ splitBatch, edit.Within (encode "aéb").length) ∧
      (splitBatch.Pairwise fun left right => left.overlaps right = false) ∧
      ∃ error, applyAll "aéb" splitBatch = .error (.undecodable error)) ∧
    applyAll "aéb" strayBatch = .error (.outside ⟨9, 9, "z"⟩ 4) ∧
      ∀ other ∈ strayBatch, ¬ other.Within (encode "aéb").length →
        other.start < 9 ∨ other.start = 9 ∧ other.stop ≤ 9 := by
  have within : ∀ edit ∈ splitBatch, edit.Within (encode "aéb").length := by decide
  have apart : splitBatch.Pairwise fun left right => left.overlaps right = false := by decide
  have greatest := ((application_exact "aéb" strayBatch).2.2 _ _ stray_batch_refused).2.2
  refine ⟨⟨within, apart, ?_⟩, stray_batch_refused, greatest⟩
  rcases (application_exact "aéb" splitBatch).2.1 within apart splitBatch.reverse (List.reverse_perm _) (by decide) with
    ⟨fixed, whole, _⟩ | ⟨_, error, _, refused⟩
  · have unread : (decode (substitute (encode "aéb") 0 (splitBatch.reverse.map part))).isOk = false := by decide +kernel
    rw [← whole, decode_encode] at unread
    cases unread
  · exact ⟨error, refused⟩

end Edit
end Rethrow
