import Mathlib.Data.List.FinRange
import Rethrow.Finding
import Rethrow.Grammar.Program

/-!
Candidates that are listed more than once. Of those with one range the first is looked at and the others are not,
whether it is reported or keeps the caught value; so listing candidates again changes nothing.
-/
set_option autoImplicit false

namespace Rethrow

def itemsAt {α : Type} (items : List α) (chosen : Fin items.length → Bool) : List α :=
  ((List.finRange items.length).filter chosen).map items.get

theorem items_at_cons {α : Type} (item : α) (rest : List α) (chosen : Fin (rest.length + 1) → Bool) :
    itemsAt (item :: rest) chosen =
      (if chosen 0 then [item] else []) ++ itemsAt rest fun place => chosen place.succ := by
  change ((List.finRange (rest.length + 1)).filter chosen).map (item :: rest).get = _
  rw [List.finRange_succ, List.filter_cons, List.filter_map]
  cases chosen 0 with
  | true => exact congrArg (item :: ·) (List.map_map ..)
  | false => exact List.map_map ..

theorem items_at_congr {α : Type} (items : List α) (chosen other : Fin items.length → Bool)
    (same : ∀ place, chosen place = true ↔ other place = true) : itemsAt items chosen = itemsAt items other := by
  have equal : chosen = other := funext fun place => Bool.eq_iff_iff.mpr (same place)
  rw [equal]

/-- No candidate at an earlier place has the same range. -/
def FirstAt (candidates : List Candidate) (place : Fin candidates.length) : Prop :=
  ∀ earlier < place, (candidates.get earlier).range ≠ (candidates.get place).range

instance (candidates : List Candidate) (place : Fin candidates.length) : Decidable (FirstAt candidates place) :=
  inferInstanceAs (Decidable (∀ earlier < place, (candidates.get earlier).range ≠ (candidates.get place).range))

theorem first_at_zero (candidate : Candidate) (rest : List Candidate) :
    FirstAt (candidate :: rest) (0 : Fin (rest.length + 1)) :=
  fun earlier before => absurd before (Fin.not_lt_zero earlier)

theorem first_at_succ (candidate : Candidate) (rest : List Candidate) (place : Fin rest.length) :
    FirstAt (candidate :: rest) place.succ ↔ candidate.range ≠ (rest.get place).range ∧ FirstAt rest place := by
  constructor
  · intro first
    exact ⟨first 0 (Fin.succ_pos place), fun earlier before => first earlier.succ (Fin.succ_lt_succ_iff.mpr before)⟩
  · rintro ⟨differs, first⟩ earlier before
    cases earlier using Fin.cases with
    | zero => exact differs
    | succ earlier => exact first earlier (Fin.succ_lt_succ_iff.mp before)

-- The ranges seen before count like candidates in front of the list.
theorem first_by_range_eq_items_at (seen : List (Nat × Nat)) (candidates : List Candidate) :
    firstByRange seen candidates = itemsAt candidates fun place =>
      (candidates.get place).range ∉ seen ∧ FirstAt candidates place := by
  induction candidates generalizing seen with
  | nil => rfl
  | cons candidate rest ih =>
      have first := first_at_zero candidate rest
      rw [firstByRange, items_at_cons]
      by_cases known : candidate.range ∈ seen
      · rw [if_pos known, ih seen, if_neg fun chosen => (of_decide_eq_true chosen).1 known, List.nil_append]
        refine items_at_congr rest _ _ fun place => ?_
        simp only [decide_eq_true_eq, first_at_succ]
        refine and_congr_right fun new => ⟨fun early => ⟨?_, early⟩, And.right⟩
        intro same
        exact new (same ▸ known)
      · rw [if_neg known, ih (candidate.range :: seen), if_pos (decide_eq_true ⟨known, first⟩)]
        refine congrArg (candidate :: ·) (items_at_congr rest _ _ fun place => ?_)
        simp only [decide_eq_true_eq, first_at_succ, List.mem_cons, not_or]
        exact ⟨fun ⟨⟨differs, new⟩, early⟩ => ⟨new, Ne.symm differs, early⟩,
          fun ⟨new, differs, early⟩ => ⟨⟨Ne.symm differs, new⟩, early⟩⟩

theorem first_by_range_seen (seen : List (Nat × Nat)) (candidates : List Candidate)
    (known : ∀ candidate ∈ candidates, candidate.range ∈ seen) : firstByRange seen candidates = [] := by
  induction candidates with
  | nil => rfl
  | cons candidate rest ih =>
      rw [firstByRange, if_pos (known candidate List.mem_cons_self)]
      exact ih fun other held => known other (List.mem_cons_of_mem _ held)

theorem first_by_range_append (seen : List (Nat × Nat)) (candidates extra : List Candidate)
    (known : ∀ other ∈ extra, other.range ∈ seen ∨ ∃ candidate ∈ candidates, candidate.range = other.range) :
    firstByRange seen (candidates ++ extra) = firstByRange seen candidates := by
  induction candidates generalizing seen with
  | nil => exact first_by_range_seen seen extra (by simpa using known)
  | cons candidate rest ih =>
      rw [List.cons_append, firstByRange, firstByRange]
      split
      · rename_i listed
        refine ih seen fun other held => ?_
        rcases known other held with before | ⟨twin, member, same⟩
        · exact .inl before
        · rcases List.mem_cons.mp member with rfl | later
          · exact .inl (same ▸ listed)
          · exact .inr ⟨twin, later, same⟩
      · refine congrArg (candidate :: ·) (ih (candidate.range :: seen) fun other held => ?_)
        rcases known other held with before | ⟨twin, member, same⟩
        · exact .inl (List.mem_cons_of_mem _ before)
        · rcases List.mem_cons.mp member with rfl | later
          · exact .inl (same ▸ List.mem_cons_self)
          · exact .inr ⟨twin, later, same⟩

namespace Script

variable (script : Script) (handler : Handler)

theorem report_append (candidates extra : List Candidate)
    (known : ∀ other ∈ extra, ∃ candidate ∈ candidates, candidate.range = other.range) :
    script.report handler (candidates ++ extra) = script.report handler candidates := by
  unfold report
  rw [first_by_range_append [] candidates extra fun other held => .inr (known other held)]

theorem report_repeated (candidates : List Candidate) (times : Nat) :
    script.report handler (List.replicate (times + 1) candidates).flatten = script.report handler candidates := by
  rw [List.replicate_succ, List.flatten_cons]
  refine script.report_append handler candidates _ fun other held => ?_
  obtain ⟨copy, repeated, member⟩ := List.mem_flatten.mp held
  exact ⟨other, List.eq_of_mem_replicate repeated ▸ member, rfl⟩

-- A candidate that keeps the caught value hides later ones of its range, as one that is reported does.
theorem repeats_ignored (name : String) (bound : handler.parameter = some name) (candidates : List Candidate) :
    script.report handler candidates =
      ((List.finRange candidates.length).filter fun place =>
        FirstAt candidates place ∧ script.linked (some name) (candidates.get place) = false).map (fun place =>
          { anchor := (candidates.get place).call, parameter := name, problem := .missingCause
            fix := (candidates.get place).fix name }) ∧
    (∀ extra : List Candidate, (∀ other ∈ extra, ∃ candidate ∈ candidates, candidate.range = other.range) →
      script.report handler (candidates ++ extra) = script.report handler candidates) ∧
    ∀ times : Nat,
      script.report handler (List.replicate (times + 1) candidates).flatten = script.report handler candidates := by
  refine ⟨?_, script.report_append handler candidates, script.report_repeated handler candidates⟩
  simp only [report, bound]
  rw [first_by_range_eq_items_at, itemsAt, List.filter_map, List.map_map, List.filter_filter]
  refine congrArg _ (List.filter_congr fun place _ => ?_)
  simp [Bool.and_comm]

end Script

def echoedThrows : Script := .parse .script
  "try{}catch(e){throw Error(1);throw Error(2,{cause:e})}"

def echoedHandler : Handler := echoedThrows.handlers.head?.getD default

def echoedCandidates : List Candidate := echoedThrows.candidates ["Error"] echoedHandler

def echoes : List Candidate := echoedCandidates.map fun candidate => { candidate with options := none }

theorem echoes_ignored :
    echoedHandler.parameter = some "e" ∧
      (∀ other ∈ echoes, ∃ candidate ∈ echoedCandidates, candidate.range = other.range) ∧
      (echoedThrows.report echoedHandler echoes).length = 2 ∧
      (echoedThrows.report echoedHandler echoedCandidates).length = 1 ∧
      echoedThrows.report echoedHandler (echoedCandidates ++ echoes) =
        echoedThrows.report echoedHandler echoedCandidates := by
  have bound : echoedHandler.parameter = some "e" := by decide +kernel
  have known : ∀ other ∈ echoes, ∃ candidate ∈ echoedCandidates, candidate.range = other.range := by
    intro other held
    obtain ⟨candidate, member, rfl⟩ := List.mem_map.mp held
    exact ⟨candidate, member, rfl⟩
  exact ⟨bound, known, by decide +kernel, by decide +kernel,
    (echoedThrows.repeats_ignored echoedHandler "e" bound echoedCandidates).2.1 echoes known⟩

end Rethrow
