import Mathlib.Data.List.Forall2
import Rethrow.Analysis
import Rethrow.Proofs.Lapse
import Rethrow.Proofs.Naming

/-!
What further constructor names change: nothing that was there goes away. Every candidate is still one, with the same
parts and the same verdict; and unless two throws share a range, every finding is still made, in the same order.
-/
set_option autoImplicit false

namespace Rethrow

section Lists
variable {α β : Type}

theorem filter_map_sublist (choose wider : α → Option β)
    (agree : ∀ item result, choose item = some result → wider item = some result) (items : List α) :
    (items.filterMap choose).Sublist (items.filterMap wider) := by
  induction items with
  | nil => exact .slnil
  | cons item rest ih =>
      cases chosen : choose item with
      | some result =>
          rw [List.filterMap_cons_some chosen, List.filterMap_cons_some (agree item result chosen)]
          exact ih.cons_cons result
      | none =>
          rw [List.filterMap_cons_none chosen]
          cases other : wider item with
          | some result =>
              rw [List.filterMap_cons_some other]
              exact ih.cons result
          | none =>
              rw [List.filterMap_cons_none other]
              exact ih

theorem flat_map_sublist {fewer all : List (α × List β)}
    (parts : List.Forall₂ (fun left right => left.2.Sublist right.2) fewer all) :
    (fewer.flatMap (·.2)).Sublist (all.flatMap (·.2)) := by
  induction parts with
  | nil => exact .slnil
  | cons part _ ih =>
      rw [List.flatMap_cons, List.flatMap_cons]
      exact part.append ih

section Stable
variable (before : α → α → Bool) (trans : ∀ a b c, before a b = true → before b c = true → before a c = true)
  (total : ∀ a b, (before a b || before b a) = true)
include trans total

-- A stable sort puts the first item right before those that it does not follow.
theorem merge_sort_cons_filter (item : α) (items : List α) :
    (item :: items).mergeSort before = (items.mergeSort before).filter (fun other => !before item other) ++
      item :: (items.mergeSort before).filter (before item) := by
  obtain ⟨low, high, sorted, rest, below⟩ := List.mergeSort_cons trans total item items
  have pairs := List.pairwise_mergeSort trans total (item :: items)
  rw [sorted] at pairs
  have above : ∀ other ∈ high, before item other = true :=
    (List.pairwise_cons.mp (List.pairwise_append.mp pairs).2.1).1
  have lows : low.filter (before item) = [] := by simpa using below
  have highs : high.filter (fun other => !before item other) = [] := by simpa using above
  rw [sorted, rest, List.filter_append, List.filter_append, lows, highs, List.append_nil, List.nil_append,
    List.filter_eq_self.mpr above, List.filter_eq_self.mpr below]

theorem merge_sort_sublist {fewer more : List α} (part : fewer.Sublist more) :
    (fewer.mergeSort before).Sublist (more.mergeSort before) := by
  induction part with
  | slnil => exact .refl _
  | @cons fewer more item _ ih =>
      obtain ⟨low, high, sorted, rest, _⟩ := List.mergeSort_cons trans total item more
      rw [rest] at ih
      rw [sorted]
      exact ih.middle item
  | @cons_cons fewer more item _ ih =>
      rw [merge_sort_cons_filter before trans total, merge_sort_cons_filter before trans total]
      exact (ih.filter _).append ((ih.filter _).cons_cons item)

end Stable
end Lists

namespace Script

variable {names more : List String}

theorem candidate_of_subset (script : Script) (wider : names ⊆ more) (statement : Node) (candidate : Candidate)
    (made : script.candidate? names statement = some candidate) :
    script.candidate? more statement = some candidate := by
  simp only [candidate?, Option.bind_eq_bind, Option.bind_eq_some_iff, Option.guard_eq_some'] at made ⊢
  obtain ⟨expression, first, call, unwrapped, constructor, constructed, _, named, rest⟩ := made
  exact ⟨expression, first, call, unwrapped, constructor, constructed, (), wider named, rest⟩

theorem candidates_sublist (script : Script) (wider : names ⊆ more) (handler : Handler) :
    (script.candidates names handler).Sublist (script.candidates more handler) := by
  rw [candidates_eq, candidates_eq]
  exact filter_map_sublist _ _ (script.candidate_of_subset wider) handler.throws

-- With distinct ranges no throw is passed over, so a new one takes no other's place.
theorem report_sublist (script : Script) (handler : Handler) {fewer more : List Candidate} (part : fewer.Sublist more)
    (distinct : more.Pairwise fun left right => left.range ≠ right.range) :
    (script.report handler fewer).Sublist (script.report handler more) := by
  cases bound : handler.parameter with
  | none => simp [report, bound]
  | some name =>
      simp only [report, bound]
      rw [first_by_range_eq [] fewer (by simp) (distinct.sublist part), first_by_range_eq [] more (by simp) distinct]
      exact (part.filter _).map _

theorem findings_sublist (script : Script)
    (parts : List.Forall₂ (fun fewer all => fewer.1 = all.1 ∧ fewer.2.Sublist all.2) (script.reports names)
      (script.reports more)) : (script.findings names).Sublist (script.findings more) := by
  refine merge_sort_sublist _ ?_ ?_ (flat_map_sublist (parts.imp fun _ _ pair => pair.2))
  · intro a b c first second
    simp only [decide_eq_true_eq] at first second ⊢
    omega
  · intro a b
    simp only [Bool.or_eq_true, decide_eq_true_eq]
    omega

theorem constructors_monotone (script : Script) (settings : Settings) (extra : List String) :
    (∀ handler ∈ script.handlers,
      ((script.candidates settings.constructors handler).map fun candidate =>
        (candidate, script.linked handler.parameter candidate)).Sublist
      ((script.candidates (settings.withConstructors extra).constructors handler).map fun candidate =>
        (candidate, script.linked handler.parameter candidate))) ∧
    ((∀ handler ∈ script.handlers, (script.candidates (settings.withConstructors extra).constructors handler).Pairwise
        fun left right => left.range ≠ right.range) →
      List.Forall₂ (fun fewer all => fewer.1 = all.1 ∧ fewer.2.Sublist all.2) (script.reports settings.constructors)
        (script.reports (settings.withConstructors extra).constructors) ∧
      ∀ (read : Reader) (source suffix : String), read.script source suffix = .ok script →
        ∃ fewer all, read.analyze settings source suffix = .ok fewer ∧
          read.analyze (settings.withConstructors extra) source suffix = .ok all ∧ fewer.Sublist all) := by
  have wider := (settings.with_constructors_extends extra).subset
  refine ⟨fun handler _ => (script.candidates_sublist wider handler).map _, fun distinct => ?_⟩
  have parts : List.Forall₂ (fun fewer all => fewer.1 = all.1 ∧ fewer.2.Sublist all.2)
      (script.reports settings.constructors) (script.reports (settings.withConstructors extra).constructors) := by
    rw [reports, reports, List.forall₂_map_left_iff, List.forall₂_map_right_iff, List.forall₂_same]
    intro handler member
    exact ⟨rfl, script.report_sublist handler (script.candidates_sublist wider handler) (distinct handler member)⟩
  refine ⟨parts, fun read source suffix parsed => ?_⟩
  refine ⟨script.findings settings.constructors, script.findings (settings.withConstructors extra).constructors, ?_, ?_,
    script.findings_sublist parts⟩
  · rw [Reader.analyze, parsed]
    rfl
  · rw [Reader.analyze, parsed]
    rfl

end Script

def mixedThrows : String := "try\x7b\x7dcatch(e)\x7bif(a)throw Oops(1);throw Error(2)\x7d"

theorem mixed_throws_kept :
    (∀ handler ∈ (Script.parse .script mixedThrows).handlers,
      ((Script.parse .script mixedThrows).candidates ["Error", "Oops"] handler).Pairwise fun left right =>
        left.range ≠ right.range) ∧
    ((Script.parse .script mixedThrows).reports ["Error"]).map (·.2.map (·.start)) = [[39]] ∧
    ((Script.parse .script mixedThrows).reports ["Error", "Oops"]).map (·.2.map (·.start)) = [[25, 39]] ∧
    ∃ fewer all, analyze {} mixedThrows ".js" = .ok fewer ∧
      analyze (({} : Settings).withConstructors ["Oops"]) mixedThrows ".js" = .ok all ∧ fewer.Sublist all := by
  have supported : Dialect.ofSuffix? ".js" = some .script := by decide +kernel
  have parsed : Reader.script Script.parse mixedThrows ".js" = .ok (.parse .script mixedThrows) := by
    simp only [Reader.script, supported]
  have distinct : ∀ handler ∈ (Script.parse .script mixedThrows).handlers,
      ((Script.parse .script mixedThrows).candidates ["Error", "Oops"] handler).Pairwise fun left right =>
        left.range ≠ right.range := by decide +kernel
  refine ⟨distinct, by decide +kernel, by decide +kernel, ?_⟩
  exact (((Script.parse .script mixedThrows).constructors_monotone {} ["Oops"]).2 distinct).2 Script.parse mixedThrows
    ".js" parsed

end Rethrow
