import Mathlib.Data.List.Basic
import Rethrow.Proofs.Sequence

/-!
The throws that lose the caught value. Each finding comes from one of them, and no two of them are the same throw. In
an orderly tree the throws of a handler stand side by side, so none is passed over for having the range of another.
-/
set_option autoImplicit false

namespace Rethrow

/-- A throw that loses the caught value, with the handler that owns it and the name of that value. Findings are made
from these one for one; a finding itself does not say which statement it comes from. -/
structure Lapse where
  handler : Handler
  name : String
  candidate : Candidate

namespace Lapse

def finding (lapse : Lapse) : Finding := lapse.candidate.finding lapse.name

def fix (lapse : Lapse) : Option Edit := lapse.candidate.fix lapse.name

/-- The inner throw stands in the options literal of the outer one. -/
def Inside (inner outer : Lapse) : Prop :=
  ∃ literal ∈ outer.candidate.literal?, inner.candidate.statement ∈ literal.descendants

instance (inner outer : Lapse) : Decidable (inner.Inside outer) :=
  inferInstanceAs (Decidable (∃ literal ∈ outer.candidate.literal?, inner.candidate.statement ∈ literal.descendants))

end Lapse

namespace Script

def lapsesOf (script : Script) (names : List String) (handler : Handler) : List Lapse :=
  match handler.parameter with
  | none => []
  | some name =>
    ((firstByRange [] (script.candidates names handler)).filter fun candidate =>
      !script.linked (some name) candidate).map fun candidate => ⟨handler, name, candidate⟩

def lapses (script : Script) (names : List String) : List Lapse :=
  script.handlers.flatMap fun handler => script.lapsesOf names handler

theorem reports_findings (script : Script) (names : List String) :
    (script.reports names).flatMap (·.2) = (script.lapses names).map (·.finding) := by
  rw [reports, lapses, List.flatMap_map, List.map_flatMap]
  congr 1
  funext handler
  cases parameter : handler.parameter with
  | none => simp [report, lapsesOf, parameter]
  | some name =>
      simp only [report, lapsesOf, parameter, List.map_map]
      rfl

theorem reports_fixes (script : Script) (names : List String) :
    ((script.reports names).flatMap (·.2)).filterMap (·.fix) = (script.lapses names).filterMap (·.fix) := by
  rw [script.reports_findings names, List.filterMap_map]
  rfl

theorem first_by_range_sublist (seen : List (Nat × Nat)) (candidates : List Candidate) :
    (firstByRange seen candidates).Sublist candidates := by
  induction candidates generalizing seen with
  | nil => exact List.Sublist.refl _
  | cons candidate rest ih =>
      rw [firstByRange]
      split
      · exact (ih seen).cons _
      · exact (ih _).cons_cons _

theorem lapses_of_inversion (script : Script) (names : List String) (handler : Handler) (lapse : Lapse)
    (member : lapse ∈ script.lapsesOf names handler) :
    lapse.handler = handler ∧ handler.parameter = some lapse.name ∧
      lapse.candidate ∈ script.candidates names handler ∧
      script.linked (some lapse.name) lapse.candidate = false := by
  cases parameter : handler.parameter with
  | none => simp [lapsesOf, parameter] at member
  | some name =>
      simp only [lapsesOf, parameter, List.mem_map, List.mem_filter] at member
      obtain ⟨candidate, ⟨held, unlinked⟩, rfl⟩ := member
      exact ⟨rfl, rfl, (first_by_range_sublist [] _).subset held, by simpa using unlinked⟩

theorem mem_lapses (script : Script) (names : List String) (lapse : Lapse) (member : lapse ∈ script.lapses names) :
    Owns script names lapse.handler lapse.candidate ∧ lapse.handler.parameter = some lapse.name ∧
      script.linked (some lapse.name) lapse.candidate = false := by
  obtain ⟨handler, held, found⟩ := List.mem_flatMap.mp member
  obtain ⟨rfl, parameter, listed, unlinked⟩ := script.lapses_of_inversion names handler lapse found
  exact ⟨⟨held, listed⟩, parameter, unlinked⟩

end Script

namespace Owns
open Node

variable {script : Script} {names : List String} {handler : Handler} {candidate rival : Candidate}

theorem shape (owns : Owns script names handler candidate) :
    ∃ between constructor list rest, candidate.Made script names between constructor list rest :=
  (script.candidate_inversion names candidate.statement candidate owns.made).2

theorem not_below_own (owns : Owns script names handler candidate) (rivals : Owns script names handler rival)
    (numbered : script.root.Numbered) : rival.statement ∉ candidate.statement.descendants := fun below =>
  (rivals.between_kind numbered candidate.statement owns.below_body below).2.2 owns.throws

theorem literal_below (owns : Owns script names handler candidate) (literal : Node)
    (found : candidate.literal? = some literal) : literal ∈ candidate.statement.descendants := by
  obtain ⟨between, constructor, list, rest, made⟩ := owns.shape
  exact descendants_trans _ list _ (descendant_mem_preorder _ _ made.list_below)
    (child_mem_descendants _ _ (made.literal_child literal found))

theorem throw_forward (owns : Owns script names handler candidate) (spaced : script.root.Spaced) :
    candidate.statement.start < candidate.statement.stop := by
  obtain ⟨between, constructor, list, rest, made⟩ := owns.shape
  have range := spaced.throw_range _ list owns.statement_mem owns.throws made.list_below
  have forward := spaced.forward list (below_mem _ _ _ owns.statement_mem made.list_below)
  omega

theorem below_clause (owns : Owns script names handler candidate) :
    candidate.statement ∈ handler.clause.descendants :=
  descendants_trans _ handler.body _ (descendant_mem_preorder _ _ (child_mem_descendants _ _ owns.body_child))
    owns.below_body

theorem not_below_inner (owns : Owns script names handler candidate) (spaced : script.root.Spaced)
    (separate : script.root.Separate) (clause : Node) (kind : clause.kind = .catchClause)
    (inner : clause ∈ handler.clause.descendants) : candidate.statement ∉ clause.descendants := by
  intro held
  obtain ⟨between, path, clear⟩ := owns.reaches
  have unforked := spaced.unforked handler.clause candidate.statement owns.clause_mem (owns.throw_forward spaced)
  have passed := mem_between_of_unforked handler.clause candidate.statement clause (handler.body :: between) unforked
    (.step _ handler.body _ between owns.body_child path) inner held
  rcases List.mem_cons.mp passed with rfl | later
  · exact owns.body_kind separate kind
  · exact (clear clause later).2.1 kind

end Owns

namespace Script

theorem first_by_range_eq (seen : List (Nat × Nat)) (candidates : List Candidate)
    (unseen : ∀ candidate ∈ candidates, candidate.range ∉ seen)
    (distinct : candidates.Pairwise fun left right => left.range ≠ right.range) :
    firstByRange seen candidates = candidates := by
  induction candidates generalizing seen with
  | nil => rfl
  | cons candidate rest ih =>
      obtain ⟨first, later⟩ := List.pairwise_cons.mp distinct
      rw [firstByRange, if_neg (unseen candidate List.mem_cons_self), ih (candidate.range :: seen) ?_ later]
      intro other held listed
      rcases List.mem_cons.mp listed with same | before
      · exact first other held same.symm
      · exact unseen other (List.mem_cons_of_mem _ held) before

theorem candidates_apart (script : Script) (names : List String) (handler : Handler) (spaced : script.root.Spaced)
    (member : handler ∈ script.handlers) :
    (script.candidates names handler).Pairwise fun left right => left.statement.stop ≤ right.statement.start := by
  rw [candidates_eq, List.pairwise_filterMap]
  refine (spaced.throws_apart handler (script.handler_body handler member).2).imp ?_
  intro left right before candidate made rival rivalMade
  rw [(script.candidate_inversion names left candidate made).1,
    (script.candidate_inversion names right rival rivalMade).1]
  exact before

theorem ranges_distinct (script : Script) (names : List String) (handler : Handler) (spaced : script.root.Spaced)
    (member : handler ∈ script.handlers) :
    (script.candidates names handler).Pairwise fun left right => left.range ≠ right.range := by
  refine (script.candidates_apart names handler spaced member).imp_of_mem ?_
  intro left right leftMember _ before same
  have owns : Owns script names handler left := ⟨member, leftMember⟩
  have forward := owns.throw_forward spaced
  have sameStart := (Prod.mk.inj same).1
  omega

theorem handlers_ordered (script : Script) (spaced : script.root.Spaced) :
    script.handlers.Pairwise fun left right =>
      right.clause ∈ left.clause.descendants ∨ left.clause.stop ≤ right.clause.start := by
  rw [handlers, Node.walk_eq, List.pairwise_filterMap]
  refine (spaced.preorder_ordered script.root (Node.self_mem_preorder _)).imp ?_
  intro left right order handler found other otherFound
  rw [script.handler_clause left handler found, script.handler_clause right other otherFound]
  exact order

theorem lapses_apart (script : Script) (names : List String) (spaced : script.root.Spaced)
    (separate : script.root.Separate) :
    (script.lapses names).Pairwise fun left right => left.candidate.statement ≠ right.candidate.statement := by
  rw [lapses, List.pairwise_flatMap]
  constructor
  · intro handler member
    have distinct := script.ranges_distinct names handler spaced member
    cases parameter : handler.parameter with
    | none => simp [lapsesOf, parameter]
    | some name =>
        simp only [lapsesOf, parameter, List.pairwise_map]
        refine List.Pairwise.filter _ (List.Pairwise.sublist (first_by_range_sublist [] _) (distinct.imp ?_))
        intro left right different same
        exact different (by rw [Candidate.range, Candidate.range, same])
  · refine (script.handlers_ordered spaced).imp_of_mem ?_
    intro left right leftMember rightMember order lapse held other otherHeld same
    have owns : Owns script names left lapse.candidate :=
      ⟨leftMember, (script.lapses_of_inversion names left lapse held).2.2.1⟩
    have rivals : Owns script names right other.candidate :=
      ⟨rightMember, (script.lapses_of_inversion names right other otherHeld).2.2.1⟩
    rcases order with inner | before
    · exact owns.not_below_inner spaced separate right.clause rivals.clause_kind inner (same ▸ rivals.below_clause)
    · have range := spaced.range_inside left.clause _ owns.clause_mem
        (Node.descendant_mem_preorder _ _ owns.below_clause)
      have otherRange := spaced.range_inside right.clause _ rivals.clause_mem
        (Node.descendant_mem_preorder _ _ rivals.below_clause)
      have forward := owns.throw_forward spaced
      rw [← same] at otherRange
      omega

theorem lapses_of_eq (script : Script) (names : List String) (handler : Handler) (orderly : script.root.Orderly)
    (member : handler ∈ script.handlers) (name : String) (parameter : handler.parameter = some name) :
    script.lapsesOf names handler =
      ((script.candidates names handler).filter fun candidate => !script.linked (some name) candidate).map
        fun candidate => ⟨handler, name, candidate⟩ := by
  simp only [lapsesOf, parameter]
  rw [first_by_range_eq [] _ (by simp) (script.ranges_distinct names handler orderly.spaced member)]

theorem owned_mem_lapses (script : Script) (names : List String) (handler : Handler) (candidate : Candidate)
    (name : String) (orderly : script.root.Orderly) (owns : Owns script names handler candidate)
    (parameter : handler.parameter = some name) (unlinked : script.linked (some name) candidate = false) :
    ⟨handler, name, candidate⟩ ∈ script.lapses names := by
  refine List.mem_flatMap.mpr ⟨handler, owns.handler_mem, ?_⟩
  rw [script.lapses_of_eq names handler orderly owns.handler_mem name parameter]
  exact List.mem_map.mpr ⟨candidate, List.mem_filter.mpr ⟨owns.candidate_mem, by simp [unlinked]⟩, rfl⟩

-- Nothing but the link decides whether a candidate is reported: not its branch, its depth, or the other candidates.
theorem findings_one_for_one (script : Script) (names : List String) (spaced : script.root.Spaced) :
    (script.reports names).map (·.1) = script.handlers ∧
    ∀ entry ∈ script.reports names, ∀ name, entry.1.parameter = some name →
      entry.2 = ((script.candidates names entry.1).filter fun candidate => !script.linked (some name) candidate).map
        (fun candidate =>
          { anchor := candidate.call, parameter := name, problem := .missingCause, fix := candidate.fix name }) ∧
      firstByRange [] (script.candidates names entry.1) = script.candidates names entry.1 ∧
      (∀ candidate ∈ script.candidates names entry.1, candidate.statement.start < candidate.statement.stop) ∧
      (script.candidates names entry.1).Pairwise fun left right => left.statement.stop ≤ right.statement.start := by
  constructor
  · rw [reports, List.map_map]
    exact List.map_id _
  · intro entry reported name bound
    obtain ⟨handler, member, rfl⟩ := List.mem_map.mp reported
    dsimp only at bound ⊢
    have whole := first_by_range_eq [] _ (by simp) (script.ranges_distinct names handler spaced member)
    refine ⟨?_, whole, ?_, script.candidates_apart names handler spaced member⟩
    · rw [report, bound, whole]
      rfl
    · intro candidate held
      exact Owns.throw_forward ⟨member, held⟩ spaced

end Script

def branchedThrows : Script := .parse .script
  "try\x7b\x7dcatch(e)\x7bif(a)\x7bthrow Error(1)\x7delse switch(b)\x7bcase 1:throw Error(2,\x7bcause:e\x7d);default:throw(Error(3,e))\x7d\x7d"

theorem branched_throws_reported :
    branchedThrows.root.Spaced ∧
      (branchedThrows.reports ["Error"]).map (fun entry => (entry.1.parameter, entry.2.length)) = [(some "e", 2)] ∧
      ∀ entry ∈ branchedThrows.reports ["Error"], entry.1.parameter = some "e" →
        (branchedThrows.candidates ["Error"] entry.1).Pairwise fun left right =>
          left.statement.stop ≤ right.statement.start :=
  ⟨by decide +kernel, by decide +kernel, fun entry reported bound =>
    ((branchedThrows.findings_one_for_one ["Error"] (by decide +kernel)).2 entry reported "e" bound).2.2.2⟩

end Rethrow
