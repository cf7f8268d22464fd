import Rethrow.Proofs.Encoding
import Rethrow.Proofs.Selection

/-!
What the application of a batch amounts to. The edits are made one after the other, from the last to the first, and
each is checked against the bytes as they are by then; the outcome is that of all replacements at once, and nothing
else has changed.
-/
set_option autoImplicit false

namespace Rethrow.Edit
open Utf8

/-- `Replaces position bytes edits result`: the ranges of the edits follow each other in the bytes that stand at
`position`. The result has the text of each edit in the place of its range, and all other bytes as they were. -/
inductive Replaces : Nat → Bytes → List Edit → Bytes → Prop where
  | rest (position : Nat) (bytes : Bytes) : Replaces position bytes [] bytes
  | edit (position : Nat) (gap taken bytes : Bytes) (edit : Edit) (edits : List Edit) (result : Bytes)
      (start : edit.start = position + gap.length) (stop : edit.stop = edit.start + taken.length)
      (later : Replaces (position + gap.length + taken.length) bytes edits result) :
      Replaces position (gap ++ taken ++ bytes) (edit :: edits) (gap ++ encode edit.text ++ result)

theorem Replaces.no_edits {position : Nat} {bytes result : Bytes} (replaced : Replaces position bytes [] result) :
    result = bytes := by
  cases replaced
  rfl

def Within (size : Nat) (edit : Edit) : Prop := 0 ≤ edit.start ∧ edit.start ≤ edit.stop ∧ edit.stop ≤ size

instance (size : Nat) (edit : Edit) : Decidable (edit.Within size) :=
  inferInstanceAs (Decidable (0 ≤ edit.start ∧ edit.start ≤ edit.stop ∧ edit.stop ≤ size))

theorem fits_iff (edit : Edit) (size : Nat) : edit.fits size = true ↔ edit.Within size := by
  simp [fits, Within, and_assoc]

theorem splice_parts (front taken tail : Bytes) (edit : Edit) (start : edit.start = front.length)
    (stop : edit.stop = edit.start + taken.length) :
    edit.fits (front ++ taken ++ tail).length = true ∧
      edit.splice (front ++ taken ++ tail) = front ++ encode edit.text ++ tail := by
  have stop' : edit.stop = ((front ++ taken).length : Nat) := by
    rw [stop, start, List.length_append, Int.natCast_add]
  constructor
  · rw [fits_iff, Within, stop', start]
    simp only [List.length_append]
    omega
  · rw [splice, start, stop', Int.toNat_natCast, Int.toNat_natCast, List.drop_left, List.append_assoc front,
      List.take_left]

theorem splice_all_append (bytes : Bytes) (left right : List Edit) :
    spliceAll bytes (left ++ right) = spliceAll bytes left >>= fun done => spliceAll done right := by
  induction left generalizing bytes with
  | nil => rfl
  | cons edit left ih =>
      rw [List.cons_append, spliceAll, spliceAll]
      split
      · exact ih _
      · rfl

-- The edits are made from the last to the first. What stands before them is as it was all the time.
theorem splice_all_apart (edits : List Edit) (front back : Bytes)
    (after : ∀ edit ∈ edits, (front.length : Int) ≤ edit.start) (forward : ∀ edit ∈ edits, edit.start ≤ edit.stop)
    (inside : ∀ edit ∈ edits, edit.stop ≤ ((front ++ back).length : Nat))
    (apart : edits.Pairwise fun left right => left.stop ≤ right.start) :
    ∃ tail, spliceAll (front ++ back) edits.reverse = .ok (front ++ tail) ∧
      Replaces front.length back edits tail := by
  induction edits generalizing front back with
  | nil => exact ⟨back, rfl, .rest _ _⟩
  | cons edit rest ih =>
      obtain ⟨first, later⟩ := List.pairwise_cons.mp apart
      have starts := after edit List.mem_cons_self
      have ordered := forward edit List.mem_cons_self
      have ends := inside edit List.mem_cons_self
      rw [List.length_append] at ends
      -- The bytes before the range, those in it and those after it.
      obtain ⟨gap, taken, beyond, shape, start, stop⟩ : ∃ gap taken beyond, back = gap ++ taken ++ beyond ∧
          edit.start = front.length + gap.length ∧ edit.stop = edit.start + taken.length := by
        refine ⟨back.take (edit.start.toNat - front.length),
          (back.drop (edit.start.toNat - front.length)).take (edit.stop.toNat - edit.start.toNat),
          (back.drop (edit.start.toNat - front.length)).drop (edit.stop.toNat - edit.start.toNat), ?_, ?_, ?_⟩
        · rw [List.append_assoc, List.take_append_drop, List.take_append_drop]
        · rw [List.length_take]
          omega
        · rw [List.length_take, List.length_drop]
          omega
      subst shape
      have assoc : front ++ (gap ++ taken ++ beyond) = front ++ gap ++ taken ++ beyond := by
        simp only [List.append_assoc]
      obtain ⟨tail, done, replaced⟩ := ih (front ++ gap ++ taken) beyond
        (fun other held => by
          have := first other held
          simp only [List.length_append]
          omega)
        (fun other held => forward other (List.mem_cons_of_mem _ held))
        (fun other held => assoc ▸ inside other (List.mem_cons_of_mem _ held)) later
      obtain ⟨fits, spliced⟩ := splice_parts (front ++ gap) taken tail edit (by simp [start]) stop
      refine ⟨gap ++ encode edit.text ++ tail, ?_, ?_⟩
      · rw [List.reverse_cons, splice_all_append, assoc, done]
        simp only [bind, Except.bind, spliceAll, fits, if_true, spliced]
        simp only [List.append_assoc]
      · rw [List.length_append, List.length_append] at replaced
        exact .edit front.length gap taken beyond edit rest tail start stop replaced

theorem splice_all_forward (edits : List Edit) (bytes result : Bytes) (done : spliceAll bytes edits = .ok result) :
    ∀ edit ∈ edits, 0 ≤ edit.start ∧ edit.start ≤ edit.stop := by
  induction edits generalizing bytes with
  | nil => simp
  | cons first rest ih =>
      rw [spliceAll] at done
      split at done
      · rename_i fits
        have range := (fits_iff first _).mp fits
        intro edit member
        rcases List.mem_cons.mp member with rfl | held
        · exact ⟨range.1, range.2.1⟩
        · exact ih _ done edit held
      · cases done

theorem splice_all_head (first : Edit) (rest : List Edit) (bytes result : Bytes)
    (done : spliceAll bytes (first :: rest) = .ok result) : first.stop ≤ bytes.length := by
  rw [spliceAll] at done
  split at done
  · rename_i fits
    exact ((fits_iff first _).mp fits).2.2
  · cases done

theorem in_order_iff (left right : Edit) :
    inOrder left right = true ↔ left.start < right.start ∨ left.start = right.start ∧ left.stop ≤ right.stop := by
  simp [inOrder]

theorem in_order_sorted (edits : List Edit) :
    (edits.mergeSort inOrder).Pairwise fun left right => inOrder left right = true := by
  apply List.pairwise_mergeSort
  · intro a b c
    simp only [in_order_iff]
    omega
  · intro a b
    rw [Bool.or_eq_true, in_order_iff, in_order_iff]
    omega

-- Neighbours that do not overlap are enough, since the starts are in order.
theorem ordered_pairs {related : Edit → Edit → Prop} (edits : List Edit)
    (sorted : edits.Pairwise fun left right => inOrder left right = true) (clear : overlap? edits = none)
    (next : ∀ left right, right ∈ edits → inOrder left right = true → left.overlaps right = false → related left right)
    (along : ∀ left middle right, related left middle → inOrder middle right = true → related left right) :
    edits.Pairwise related := by
  induction edits with
  | nil => exact .nil
  | cons first rest ih =>
      obtain ⟨before, ordered⟩ := List.pairwise_cons.mp sorted
      cases rest with
      | nil => exact List.pairwise_singleton _ _
      | cons second rest =>
          rw [overlap?] at clear
          split at clear
          · cases clear
          · rename_i apart
            have step : related first second :=
              next first second (by simp) (before second List.mem_cons_self) (by simpa using apart)
            refine List.pairwise_cons.mpr ⟨?_, ih ordered clear fun left right held => next left right (by simp [held])⟩
            intro edit held
            rcases List.mem_cons.mp held with rfl | later
            · exact step
            · exact along first second edit step ((List.pairwise_cons.mp ordered).1 edit later)

theorem ordered_apart (edits : List Edit) (sorted : edits.Pairwise fun left right => inOrder left right = true)
    (clear : overlap? edits = none) (forward : ∀ edit ∈ edits, edit.start ≤ edit.stop) :
    edits.Pairwise fun left right => left.stop ≤ right.start := by
  refine ordered_pairs edits sorted clear ?_ ?_
  · intro left right held order apart
    have ends := forward right held
    rw [in_order_iff] at order
    rw [← Bool.not_eq_true, overlaps_iff] at apart
    omega
  · intro left middle right before order
    rw [in_order_iff] at order
    omega

theorem ordered_increasing (edits : List Edit) (sorted : edits.Pairwise fun left right => inOrder left right = true)
    (clear : overlap? edits = none) : edits.Pairwise fun left right => left.start < right.start := by
  refine ordered_pairs edits sorted clear ?_ ?_
  · intro left right _ order apart
    rw [in_order_iff] at order
    rw [← Bool.not_eq_true, overlaps_iff] at apart
    omega
  · intro left middle right before order
    rw [in_order_iff] at order
    omega

theorem overlap_eq_none (edits : List Edit) (apart : edits.Pairwise fun left right => left.overlaps right = false) :
    overlap? edits = none := by
  induction edits with
  | nil => rfl
  | cons first rest ih =>
      obtain ⟨clear, later⟩ := List.pairwise_cons.mp apart
      cases rest with
      | nil => rfl
      | cons second rest =>
          rw [overlap?, clear second List.mem_cons_self]
          exact ih later

theorem apart_inside (edits : List Edit) (size : Nat) (last : Edit) (rest : List Edit)
    (ends : edits.reverse = last :: rest) (inside : last.stop ≤ size)
    (forward : ∀ edit ∈ edits, edit.start ≤ edit.stop)
    (apart : edits.Pairwise fun left right => left.stop ≤ right.start) : ∀ edit ∈ edits, edit.stop ≤ size := by
  have shape : edits = rest.reverse ++ [last] := by
    rw [← List.reverse_cons, ← ends, List.reverse_reverse]
  subst shape
  intro edit member
  rcases List.mem_append.mp member with earlier | same
  · have order := (List.pairwise_append.mp apart).2.2 edit earlier last (by simp)
    have range := forward last (by simp)
    omega
  · rw [List.mem_singleton.mp same]
    exact inside

-- The last edit is checked against the bytes as they were, and the others end before it starts.
theorem splice_all_within (edits : List Edit) (bytes result : Bytes)
    (sorted : edits.Pairwise fun left right => inOrder left right = true) (clear : overlap? edits = none)
    (done : spliceAll bytes edits.reverse = .ok result) : ∀ edit ∈ edits, edit.Within bytes.length := by
  have range : ∀ edit ∈ edits, 0 ≤ edit.start ∧ edit.start ≤ edit.stop := fun edit member =>
    splice_all_forward edits.reverse bytes result done edit (List.mem_reverse.mpr member)
  have forward : ∀ edit ∈ edits, edit.start ≤ edit.stop := fun edit member => (range edit member).2
  intro edit member
  refine ⟨(range edit member).1, (range edit member).2, ?_⟩
  cases ends : edits.reverse with
  | nil => simp [List.reverse_eq_nil_iff.mp ends] at member
  | cons last rest =>
      rw [ends] at done
      exact apart_inside edits bytes.length last rest ends (splice_all_head last rest bytes result done) forward
        (ordered_apart edits sorted clear forward) edit member

theorem splice_all_succeeds (edits : List Edit) (bytes : Bytes)
    (sorted : edits.Pairwise fun left right => inOrder left right = true) (clear : overlap? edits = none)
    (within : ∀ edit ∈ edits, edit.Within bytes.length) :
    ∃ result, spliceAll bytes edits.reverse = .ok result ∧ Replaces 0 bytes edits result := by
  have forward := fun edit member => (within edit member).2.1
  exact splice_all_apart edits [] bytes (fun edit member => (within edit member).1) forward
    (fun edit member => (within edit member).2.2) (ordered_apart edits sorted clear forward)

theorem splice_all_replaces (edits : List Edit) (bytes result : Bytes)
    (sorted : edits.Pairwise fun left right => inOrder left right = true) (clear : overlap? edits = none)
    (done : spliceAll bytes edits.reverse = .ok result) : Replaces 0 bytes edits result := by
  obtain ⟨tail, spliced, replaced⟩ :=
    splice_all_succeeds edits bytes sorted clear (splice_all_within edits bytes result sorted clear done)
  rw [done] at spliced
  cases spliced
  exact replaced

theorem apply_all_eq (text : String) (edits : List Edit) :
    applyAll text edits =
      match overlap? (edits.mergeSort inOrder) with
      | some (first, second) => .error (.overlapping first second)
      | none => spliceAll (encode text) (edits.mergeSort inOrder).reverse >>= fun bytes =>
          (decode bytes).mapError .undecodable := by
  rw [applyAll]
  cases overlap? (edits.mergeSort inOrder) <;> rfl

theorem apply_all_replaces (text fixed : String) (edits : List Edit) (done : applyAll text edits = .ok fixed) :
    Replaces 0 (encode text) (edits.mergeSort inOrder) (encode fixed) := by
  rw [apply_all_eq] at done
  cases clear : overlap? (edits.mergeSort inOrder) with
  | some pair => simp [clear] at done
  | none =>
      cases spliced : spliceAll (encode text) (edits.mergeSort inOrder).reverse with
      | error error => simp [clear, spliced, bind, Except.bind] at done
      | ok bytes =>
          cases read : decode bytes with
          | error error => simp [clear, spliced, read, bind, Except.bind, Except.mapError] at done
          | ok result =>
              simp only [clear, spliced, read, bind, Except.bind, Except.mapError] at done
              cases done
              rw [encode_of_decode bytes fixed read]
              exact splice_all_replaces _ _ bytes (in_order_sorted edits) clear spliced

end Rethrow.Edit
