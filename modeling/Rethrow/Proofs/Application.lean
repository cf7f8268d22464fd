import Mathlib.Data.List.Infix
import Rethrow.Proofs.Substitution

/-!
Batches whose edits take whole characters out of a text. Applied, such a batch gives a text again, the one in which
the characters are replaced. A batch that was selected can always be applied where its edits are of this kind.
-/
set_option autoImplicit false

namespace Rethrow

namespace Utf8

theorem encode_chars_append (left right : List Char) :
    encodeChars (left ++ right) = encodeChars left ++ encodeChars right := by
  simp [encodeChars]

theorem encode_chars_eq_nil_iff (chars : List Char) : encodeChars chars = [] ↔ chars = [] := by
  cases chars with
  | nil => simp [encodeChars]
  | cons char rest =>
      simp only [encodeChars, List.flatMap_cons, List.append_eq_nil_iff, reduceCtorEq, iff_false, not_and]
      intro none
      exact absurd none (by simp [String.utf8EncodeChar_ne_nil])

theorem prefix_of_length (front back other rest : List Char) (same : front ++ back = other ++ rest)
    (less : (encodeChars front).length ≤ (encodeChars other).length) : ∃ middle, other = front ++ middle := by
  rcases List.append_eq_append_iff.mp same with ⟨middle, shape, _⟩ | ⟨middle, shape, _⟩
  · exact ⟨middle, shape⟩
  · rw [shape, encode_chars_append, List.length_append] at less
    have none : encodeChars middle = [] := List.length_eq_zero_iff.mp (by omega)
    rw [encode_chars_eq_nil_iff] at none
    exact ⟨[], by simp [shape, none]⟩

/-- The places between the characters of a text, counted in bytes. -/
def boundaries (chars : List Char) : List Nat := chars.inits.map fun front => (encodeChars front).length

theorem mem_boundaries (chars : List Char) (offset : Nat) (member : offset ∈ boundaries chars) :
    ∃ front back, chars = front ++ back ∧ offset = (encodeChars front).length := by
  obtain ⟨front, first, rfl⟩ := List.mem_map.mp member
  obtain ⟨back, rfl⟩ := (List.mem_inits front chars).mp first
  exact ⟨front, back, rfl, rfl⟩

def offset (chars : List Char) (count : Nat) : Nat := (encodeChars (chars.take count)).length

theorem offset_mono (chars : List Char) (less more : Nat) (order : less ≤ more) :
    offset chars less ≤ offset chars more := by
  obtain ⟨extra, rfl⟩ := Nat.exists_eq_add_of_le order
  rw [offset, offset, List.take_add, encode_chars_append, List.length_append]
  exact Nat.le_add_right _ _

theorem offset_idx_of (chars : List Char) (place : Nat) (between : place ∈ boundaries chars) :
    offset chars ((boundaries chars).idxOf place) = place := by
  have bound := List.idxOf_lt_length_of_mem between
  have found := List.getElem_idxOf bound
  simpa only [offset, boundaries, List.getElem_map, List.getElem_inits] using found

theorem encode_chars_take (chars : List Char) (count : Nat) :
    (encodeChars chars).take (offset chars count) = encodeChars (chars.take count) := by
  conv_lhs => rw [← List.take_append_drop count chars, encode_chars_append, List.take_append_drop]
  exact List.take_left

theorem encode_chars_drop (chars : List Char) (count : Nat) :
    (encodeChars chars).drop (offset chars count) = encodeChars (chars.drop count) := by
  conv_lhs => rw [← List.take_append_drop count chars, encode_chars_append, List.take_append_drop]
  exact List.drop_left

theorem encode_chars_stretch (chars : List Char) (first last : Nat) :
    ((encodeChars chars).take (offset chars last)).drop (offset chars first) =
      encodeChars ((chars.take last).drop first) := by
  rw [encode_chars_take]
  by_cases order : first ≤ last
  · have same : offset chars first = offset (chars.take last) first := by
      rw [offset, offset, List.take_take, Nat.min_eq_left order]
    rw [same, encode_chars_drop]
  · have none : (chars.take last).drop first = [] := by
      refine List.drop_eq_nil_of_le ?_
      rw [List.length_take]
      omega
    rw [none]
    exact List.drop_eq_nil_of_le (offset_mono chars last first (by omega))

end Utf8

open Utf8

def Part.encoded (chars : List Char) (part : Part Char) : Part UInt8 :=
  ⟨offset chars part.start, offset chars part.stop, encodeChars part.filling⟩

theorem encode_chars_substitute (chars : List Char) (position : Nat) (parts : List (Part Char)) :
    substitute (encodeChars chars) (offset chars position) (parts.map (Part.encoded chars)) =
      encodeChars (substitute chars position parts) := by
  induction parts generalizing position with
  | nil => exact encode_chars_drop chars position
  | cons part parts ih =>
      rw [List.map_cons, substitute, substitute, encode_chars_append, encode_chars_append, ← ih part.stop,
        ← encode_chars_stretch chars position part.start]
      rfl

namespace Edit

/-- The characters that an edit replaces, by how many stand before them, and those that take their place. -/
def characters (chars : List Char) (edit : Edit) : Part Char :=
  ⟨(boundaries chars).idxOf edit.start.toNat, (boundaries chars).idxOf edit.stop.toNat, edit.text.toList⟩

theorem part_eq_encoded (chars : List Char) (edit : Edit) (starts : edit.start.toNat ∈ boundaries chars)
    (stops : edit.stop.toNat ∈ boundaries chars) : edit.part = (edit.characters chars).encoded chars := by
  rw [characters, Part.encoded, offset_idx_of chars _ starts, offset_idx_of chars _ stops]
  rfl

theorem substitute_characters (chars : List Char) (edits : List Edit)
    (aligned : ∀ edit ∈ edits, edit.start.toNat ∈ boundaries chars ∧ edit.stop.toNat ∈ boundaries chars) :
    substitute (encodeChars chars) 0 (edits.map part) =
      encodeChars (substitute chars 0 (edits.map (characters chars))) := by
  have parts : edits.map part = (edits.map (characters chars)).map (Part.encoded chars) := by
    rw [List.map_map]
    refine List.map_congr_left fun edit member => ?_
    exact part_eq_encoded chars edit (aligned edit member).1 (aligned edit member).2
  rw [parts]
  exact encode_chars_substitute chars 0 _

theorem aligned_edits_substitute (text : String) (edits ordered : List Edit)
    (apart : edits.Pairwise fun left right => left.overlaps right = false)
    (within : ∀ edit ∈ edits, edit.Within (encode text).length)
    (aligned : ∀ edit ∈ edits,
      edit.start.toNat ∈ boundaries text.toList ∧ edit.stop.toNat ∈ boundaries text.toList)
    (same : ordered.Perm edits) (sorted : ordered.Pairwise fun left right => left.start ≤ right.start) :
    applyAll text edits =
      .ok (String.ofList (substitute text.toList 0 (ordered.map (characters text.toList)))) := by
  have whole := substitute_characters text.toList ordered fun edit member => aligned edit (same.mem_iff.mp member)
  rw [apply_all_within text edits ordered within apart same sorted, encode, whole, decode_encode_chars]
  rfl

def mixedBatch : List Edit := [⟨11, 11, "."⟩, ⟨6, 10, "♪"⟩, ⟨3, 3, "·"⟩, ⟨1, 3, "e"⟩]

theorem mixed_characters_replaced :
    (mixedBatch.Pairwise fun left right => left.overlaps right = false) ∧
      (∀ edit ∈ mixedBatch, edit.Within (encode "aé日𝄞z").length) ∧
      (∀ edit ∈ mixedBatch, edit.start.toNat ∈ boundaries "aé日𝄞z".toList ∧
        edit.stop.toNat ∈ boundaries "aé日𝄞z".toList) ∧
      applyAll "aé日𝄞z" mixedBatch = .ok "ae·日♪z." := by
  have apart : mixedBatch.Pairwise fun left right => left.overlaps right = false := by decide
  have within : ∀ edit ∈ mixedBatch, edit.Within (encode "aé日𝄞z").length := by decide +kernel
  have aligned : ∀ edit ∈ mixedBatch, edit.start.toNat ∈ boundaries "aé日𝄞z".toList ∧
      edit.stop.toNat ∈ boundaries "aé日𝄞z".toList := by decide +kernel
  refine ⟨apart, within, aligned, ?_⟩
  rw [aligned_edits_substitute "aé日𝄞z" mixedBatch mixedBatch.reverse apart within aligned (List.reverse_perm _)
    (by decide)]
  decide +kernel

theorem select_disjoint_in_order (edits : List Edit) :
    (selectDisjoint edits).mergeSort inOrder = selectDisjoint edits := by
  refine List.mergeSort_of_pairwise ((select_disjoint_apart edits).imp ?_)
  intro left right both
  simp [inOrder, both.1]

/-- The range of the edit takes whole characters out of the text. -/
def Clean (chars : List Char) (edit : Edit) : Prop :=
  ∃ front middle back, chars = front ++ middle ++ back ∧ edit.start = ((encodeChars front).length : Int) ∧
    edit.stop = ((encodeChars (front ++ middle)).length : Int)

theorem Clean.aligned {chars : List Char} {edit : Edit} (clean : edit.Clean chars) :
    edit.start.toNat ∈ boundaries chars ∧ edit.stop.toNat ∈ boundaries chars := by
  obtain ⟨front, middle, back, rfl, start, stop⟩ := clean
  have between : ∀ before after, before ++ after = front ++ middle ++ back →
      (encodeChars before).length ∈ boundaries (front ++ middle ++ back) := fun before after shape =>
    List.mem_map.mpr ⟨before, (List.mem_inits _ _).mpr ⟨after, shape⟩, rfl⟩
  rw [start, stop, Int.toNat_natCast, Int.toNat_natCast]
  exact ⟨between front (middle ++ back) (List.append_assoc ..).symm, between (front ++ middle) back rfl⟩

theorem Clean.within {text : String} {edit : Edit} (clean : edit.Clean text.toList) :
    edit.Within (encode text).length := by
  obtain ⟨before, middle, beyond, shape, start, stop⟩ := clean
  rw [Within, encode, shape, start, stop]
  simp only [encode_chars_append, List.length_append]
  omega

theorem apply_all_selected (text : String) (edits : List Edit)
    (clean : ∀ edit ∈ selectDisjoint edits, edit.Clean text.toList) :
    ∃ fixed, applyAll text (selectDisjoint edits) = .ok fixed := by
  have apart := select_disjoint_apart edits
  have whole := substitute_characters text.toList (selectDisjoint edits) fun edit member => (clean edit member).aligned
  refine ⟨String.ofList (substitute text.toList 0 ((selectDisjoint edits).map (characters text.toList))), ?_⟩
  rw [apply_all_within text (selectDisjoint edits) (selectDisjoint edits)
      (fun edit member => (clean edit member).within) (apart.imp fun both => both.2) (.refl _)
      (apart.imp fun both => Int.le_of_lt both.1),
    encode, whole, decode_encode_chars]
  rfl

end Edit
end Rethrow
