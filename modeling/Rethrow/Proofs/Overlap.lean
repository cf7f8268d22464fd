import Mathlib.Data.List.Basic
import Rethrow.Proofs.Lapse

/-!
When the fixes of two findings overlap: exactly if one throw stands in the options literal that the other fix
replaces. The fixes that are kept are those of the throws that stand in no such literal.
-/
set_option autoImplicit false

namespace Rethrow

namespace Owns
open Node

variable {script : Script} {names : List String} {handler other : Handler} {candidate rival : Candidate}
  {name otherName : String} {edit inner : Edit}

theorem edit_in_list (owns : Owns script names handler candidate) (orderly : script.root.Orderly)
    {between rest : List Node} {constructor list : Node}
    (made : candidate.Made script names between constructor list rest) (fixed : candidate.fix name = some edit) :
    (list.start : Int) < edit.start ∧ edit.start ≤ edit.stop ∧ edit.stop < list.stop := by
  have listMember := below_mem _ _ _ owns.statement_mem made.list_below
  have within : ∀ child ∈ list.children,
      list.start < child.start ∧ child.start ≤ child.stop ∧ child.stop < list.stop := by
    intro child direct
    have strict := orderly.delimited list listMember (.inl made.listKind) child direct
    have forward := orderly.forward child (child_mem _ _ _ listMember direct)
    omega
  rcases candidate.fix_inversion name edit fixed with ⟨_, rfl⟩ | ⟨literal, found, rfl⟩
  · have bounds := within candidate.message made.message_child
    dsimp only
    omega
  · have bounds := within literal (made.literal_child literal found)
    dsimp only
    omega

theorem edit_in_throw (owns : Owns script names handler candidate) (orderly : script.root.Orderly)
    (fixed : candidate.fix name = some edit) :
    (candidate.statement.start : Int) < edit.start ∧ edit.start ≤ edit.stop ∧
      edit.stop < candidate.statement.stop := by
  obtain ⟨between, constructor, list, rest, made⟩ := owns.shape
  have range := orderly.spaced.throw_range _ list owns.statement_mem owns.throws made.list_below
  have bounds := owns.edit_in_list orderly made fixed
  omega

theorem clause_below (owns : Owns script names handler candidate) (orderly : script.root.Orderly)
    (member : other ∈ script.handlers) (target : Node) (inBody : target ∈ other.body.preorder)
    (below : target ∈ candidate.statement.descendants) (outside : candidate.statement ∉ other.body.descendants) :
    other.clause ∈ candidate.statement.descendants := by
  obtain ⟨clauseMember, _, clauseKind, _⟩ := script.handler_inversion other member
  obtain ⟨direct, bodyMember⟩ := script.handler_body other member
  have apart : candidate.statement ≠ other.body := fun same =>
    owns.parent_kind orderly.numbered orderly.separate other.clause clauseMember (same ▸ direct) clauseKind
  have bodyBelow : other.body ∈ candidate.statement.descendants := by
    rcases preorder_nested script.root candidate.statement other.body target orderly.numbered owns.statement_mem
      bodyMember (descendant_mem_preorder _ _ below) inBody with held | held
    · exact absurd (((mem_preorder_iff _ _).mp held).resolve_left apart) outside
    · exact ((mem_preorder_iff _ _).mp held).resolve_left apart.symm
  have held := parent_inside script.root candidate.statement other.clause other.body orderly.numbered
    owns.statement_mem clauseMember direct bodyBelow
  refine ((mem_preorder_iff _ _).mp held).resolve_left fun same => ?_
  rw [same, owns.throws] at clauseKind
  cases clauseKind

-- A throw inside another throw belongs to a handler inside that throw: the outer handler's search does not get there.
theorem clause_in_throw (owns : Owns script names handler candidate) (rivals : Owns script names other rival)
    (orderly : script.root.Orderly) (below : rival.statement ∈ candidate.statement.descendants) :
    other.clause ∈ candidate.statement.descendants := by
  refine owns.clause_below orderly rivals.handler_mem rival.statement (descendant_mem_preorder _ _ rivals.below_body)
    below fun deeper => ?_
  exact (rivals.between_kind orderly.numbered candidate.statement deeper below).2.2 owns.throws

-- Nor does it get to a throw in the options literal from outside the literal.
theorem clause_in_literal (owns : Owns script names handler candidate) (rivals : Owns script names other rival)
    (orderly : script.root.Orderly) (literal : Node) (found : candidate.literal? = some literal)
    (below : rival.statement ∈ literal.descendants) : other.clause ∈ literal.descendants := by
  obtain ⟨between, constructor, list, rest, made⟩ := owns.shape
  have listMember := below_mem _ _ _ owns.statement_mem made.list_below
  have direct := made.literal_child literal found
  have inList := child_mem_descendants _ _ direct
  have literalMember := below_mem _ _ _ listMember inList
  have literalBelow := descendant_mem_preorder _ _ (owns.literal_below literal found)
  have clauseBelow := owns.clause_in_throw rivals orderly (descendants_trans _ literal _ literalBelow below)
  have inClause := rivals.below_clause
  rcases preorder_nested script.root other.clause literal rival.statement orderly.numbered rivals.clause_mem
    literalMember (descendant_mem_preorder _ _ inClause) (descendant_mem_preorder _ _ below) with held | held
  · rcases (mem_preorder_iff _ _).mp held with same | deeper
    · have kind := rivals.clause_kind
      rw [same, (candidate.literal_inversion literal found).2] at kind
      cases kind
    · exact deeper
  · -- A clause around the literal would be the list, or stand on the way from the throw to it.
    rcases (mem_preorder_iff _ _).mp held with same | deeper
    · have kind := rivals.clause_kind
      rw [← same, (candidate.literal_inversion literal found).2] at kind
      cases kind
    · have kind := rivals.clause_kind
      rcases (mem_preorder_iff _ _).mp (parent_inside _ other.clause list literal orderly.numbered rivals.clause_mem
        listMember direct deeper) with same | above
      · rw [← same, made.listKind] at kind
        cases kind
      · have onPath := made.above_list (numbered_part _ _ orderly.numbered owns.statement_mem) _ clauseBelow above
        rw [kind] at onPath
        simp at onPath

theorem edit_covers (owns : Owns script names handler candidate) (rivals : Owns script names other rival)
    (orderly : script.root.Orderly) (fixed : candidate.fix name = some edit)
    (innerFixed : rival.fix otherName = some inner)
    (literal : Node) (found : candidate.literal? = some literal) (below : rival.statement ∈ literal.descendants) :
    edit.Covers inner := by
  obtain ⟨between, constructor, list, rest, made⟩ := owns.shape
  have listMember := below_mem _ _ _ owns.statement_mem made.list_below
  have literalMember := child_mem _ _ _ listMember (made.literal_child literal found)
  have range := orderly.spaced.range_inside literal rival.statement literalMember (descendant_mem_preorder _ _ below)
  have bounds := rivals.edit_in_throw orderly innerFixed
  rcases candidate.fix_inversion name edit fixed with ⟨absent, _⟩ | ⟨chosen, foundChosen, rfl⟩
  · rw [(candidate.literal_inversion literal found).1] at absent
    cases absent
  · rw [found] at foundChosen
    cases foundChosen
    exact ⟨by dsimp only; omega, by dsimp only; omega⟩

-- The throw stands in the other one, but not in its options literal: in the callee, in the message, in a comment or
-- in a further argument. Each of these ends before the edit begins, or begins where it has ended.
theorem edit_apart_of_nested (owns : Owns script names handler candidate) (rivals : Owns script names other rival)
    (orderly : script.root.Orderly) (fixed : candidate.fix name = some edit)
    (innerFixed : rival.fix otherName = some inner)
    (below : rival.statement ∈ candidate.statement.descendants)
    (outside : ∀ literal, candidate.literal? = some literal → rival.statement ∉ literal.descendants) :
    edit.stop < inner.start ∨ inner.stop < edit.start := by
  obtain ⟨between, constructor, list, rest, made⟩ := owns.shape
  have listMember := below_mem _ _ _ owns.statement_mem made.list_below
  have clauseBelow := owns.clause_in_throw rivals orderly below
  have inClause := rivals.below_clause
  have clauseRange := orderly.spaced.range_inside other.clause rival.statement rivals.clause_mem
    (descendant_mem_preorder _ _ inClause)
  have innerBounds := rivals.edit_in_throw orderly innerFixed
  have bounds := owns.edit_in_list orderly made fixed
  rcases orderly.spaced.nested_or_apart other.clause list rivals.clause_mem listMember with held | held | before | after
  · rcases (mem_preorder_iff _ _).mp held with same | deeper
    · have kind := rivals.clause_kind
      rw [same, made.listKind] at kind
      cases kind
    · obtain ⟨argument, direct, inArgument⟩ := (mem_descendants_iff _ _).mp deeper
      have argumentMember := child_mem _ _ _ listMember direct
      have argumentRange := orderly.spaced.range_inside argument other.clause argumentMember inArgument
      rcases candidate.fix_inversion name edit fixed with ⟨_, rfl⟩ | ⟨literal, found, rfl⟩
      · have forward := orderly.forward candidate.message (child_mem _ _ _ listMember made.message_child)
        dsimp only at bounds ⊢
        rcases pairwise_cases _ (orderly.apart list listMember) argument candidate.message direct
          made.message_child with rfl | before | after <;> omega
      · have literalChild := made.literal_child literal found
        dsimp only at bounds ⊢
        rcases pairwise_cases _ (orderly.apart list listMember) argument literal direct literalChild with
          rfl | before | after
        · exact absurd (descendants_trans argument other.clause _ inArgument inClause) (outside argument found)
        · omega
        · omega
  · -- The clause would stand on the way from the throw to its argument list.
    rcases (mem_preorder_iff _ _).mp held with same | deeper
    · have kind := rivals.clause_kind
      rw [← same, made.listKind] at kind
      cases kind
    · have part := numbered_part _ _ orderly.numbered owns.statement_mem
      have kind := made.above_list part other.clause clauseBelow deeper
      rw [rivals.clause_kind] at kind
      simp at kind
  · omega
  · omega

theorem overlaps_iff_inside (owns : Owns script names handler candidate) (rivals : Owns script names other rival)
    (orderly : script.root.Orderly) (different : candidate.statement ≠ rival.statement)
    (fixed : candidate.fix name = some edit) (innerFixed : rival.fix otherName = some inner) :
    edit.overlaps inner = true ↔
      (∃ literal ∈ candidate.literal?, rival.statement ∈ literal.descendants) ∨
        ∃ literal ∈ rival.literal?, candidate.statement ∈ literal.descendants := by
  have bounds := owns.edit_in_throw orderly fixed
  have innerBounds := rivals.edit_in_throw orderly innerFixed
  rw [Edit.overlaps_iff]
  constructor
  · intro overlapping
    by_contra outside
    push Not at outside
    rcases orderly.spaced.nested_or_apart candidate.statement rival.statement owns.statement_mem
      rivals.statement_mem with held | held | before | after
    · have below := (mem_preorder_iff _ _).mp held |>.resolve_left different
      have := rivals.edit_apart_of_nested owns orderly innerFixed fixed below outside.2
      omega
    · have below := (mem_preorder_iff _ _).mp held |>.resolve_left different.symm
      have := owns.edit_apart_of_nested rivals orderly fixed innerFixed below outside.1
      omega
    · omega
    · omega
  · rintro (⟨literal, found, below⟩ | ⟨literal, found, below⟩)
    · have covers := owns.edit_covers rivals orderly fixed innerFixed literal found below
      have := covers.1
      have := covers.2
      omega
    · have covers := rivals.edit_covers owns orderly innerFixed fixed literal found below
      have := covers.1
      have := covers.2
      omega

end Owns

namespace Lapse

variable {script : Script} {names : List String}

theorem overlaps_iff_inside (orderly : script.root.Orderly) (left right : Lapse)
    (leftMember : left ∈ script.lapses names) (rightMember : right ∈ script.lapses names)
    (different : left.candidate.statement ≠ right.candidate.statement) (edit other : Edit)
    (fixed : left.fix = some edit) (otherFixed : right.fix = some other) :
    edit.overlaps other = true ↔ left.Inside right ∨ right.Inside left := by
  have owns := (script.mem_lapses names left leftMember).1
  have rivals := (script.mem_lapses names right rightMember).1
  rw [owns.overlaps_iff_inside rivals orderly different fixed otherFixed, or_comm]
  rfl

theorem covers_iff_inside (orderly : script.root.Orderly) (left right : Lapse) (leftMember : left ∈ script.lapses names)
    (rightMember : right ∈ script.lapses names) (edit other : Edit) (fixed : left.fix = some edit)
    (otherFixed : right.fix = some other) : edit.Covers other ↔ right.Inside left := by
  have owns := (script.mem_lapses names left leftMember).1
  have rivals := (script.mem_lapses names right rightMember).1
  constructor
  · intro covers
    have different : left.candidate.statement ≠ right.candidate.statement := by
      intro same
      have equal := pairwise_cases _ (script.lapses_apart names orderly.spaced orderly.separate) left right
        leftMember rightMember
      rcases equal with rfl | apart | apart
      · rw [fixed] at otherFixed
        cases otherFixed
        exact absurd covers.1 (Int.lt_irrefl _)
      · exact apart same
      · exact apart same.symm
    have overlapping : edit.overlaps other = true := by
      have := (rivals.edit_in_throw orderly otherFixed).2.1
      have := covers.1
      have := covers.2
      rw [Edit.overlaps_iff]
      omega
    rcases (overlaps_iff_inside orderly left right leftMember rightMember different edit other fixed otherFixed).mp
      overlapping with inside | inside
    · obtain ⟨literal, found, below⟩ := inside
      have reverse := rivals.edit_covers owns orderly otherFixed fixed literal found below
      have := covers.1
      have := reverse.1
      omega
    · exact inside
  · rintro ⟨literal, found, below⟩
    exact owns.edit_covers rivals orderly fixed otherFixed literal found below

theorem fixes_nested (orderly : script.root.Orderly) : Edit.Nested ((script.lapses names).filterMap (·.fix)) := by
  constructor
  · intro edit member
    obtain ⟨lapse, held, fixed⟩ := List.mem_filterMap.mp member
    exact ((script.mem_lapses names lapse held).1.edit_in_throw orderly fixed).2.1
  · rw [List.pairwise_filterMap]
    refine List.Pairwise.imp_of_mem ?_ (script.lapses_apart names orderly.spaced orderly.separate)
    intro left right leftMember rightMember different edit fixed other otherFixed
    have inside := overlaps_iff_inside orderly left right leftMember rightMember different edit other fixed otherFixed
    have covers : edit.overlaps other = true → edit.Covers other ∨ other.Covers edit := by
      intro overlapping
      rcases inside.mp overlapping with held | held
      · exact .inr ((covers_iff_inside orderly right left rightMember leftMember other edit otherFixed fixed).mpr held)
      · exact .inl ((covers_iff_inside orderly left right leftMember rightMember edit other fixed otherFixed).mpr held)
    refine ⟨fun same => ?_, covers⟩
    rcases covers ((Edit.overlaps_iff edit other).mpr (.inl same)) with nested | nested
    · have := nested.1
      omega
    · have := nested.1
      omega

theorem fixes_nodup (orderly : script.root.Orderly) : ((script.lapses names).filterMap (·.fix)).Nodup :=
  (fixes_nested orderly).pairs.imp fun pair same => pair.1 (congrArg Edit.start same)

theorem mem_kept_iff (orderly : script.root.Orderly) (lapse : Lapse) (member : lapse ∈ script.lapses names)
    (edit : Edit) (fixed : lapse.fix = some edit) :
    edit ∈ Edit.selectDisjoint ((script.lapses names).filterMap (·.fix)) ↔
      ∀ other ∈ script.lapses names, other.fix ≠ none → ¬ lapse.Inside other := by
  rw [Edit.mem_select_disjoint_iff _ edit (fixes_nested orderly)]
  constructor
  · rintro ⟨_, clear⟩ other held fixable inside
    obtain ⟨outer, otherFixed⟩ := Option.ne_none_iff_exists'.mp fixable
    exact clear outer (List.mem_filterMap.mpr ⟨other, held, otherFixed⟩)
      ((covers_iff_inside orderly other lapse held member outer edit otherFixed fixed).mpr inside)
  · intro clear
    refine ⟨List.mem_filterMap.mpr ⟨lapse, member, fixed⟩, ?_⟩
    intro outer held covers
    obtain ⟨other, otherMember, otherFixed⟩ := List.mem_filterMap.mp held
    refine clear other otherMember (by simp [otherFixed]) ?_
    exact (covers_iff_inside orderly other lapse otherMember member outer edit otherFixed fixed).mp covers

end Lapse

namespace Script

theorem overlapping_fixes (script : Script) (names : List String) (orderly : script.root.Orderly) :
    (script.reports names).flatMap (·.2) = (script.lapses names).map (·.finding) ∧
    (∀ left ∈ script.lapses names, ∀ right ∈ script.lapses names,
      left.candidate.statement ≠ right.candidate.statement →
      ∀ edit ∈ left.finding.fix, ∀ other ∈ right.finding.fix,
        (edit.overlaps other = true ↔ left.Inside right ∨ right.Inside left) ∧
        (left.handler = right.handler → edit.overlaps other = false)) ∧
    (Edit.selectDisjoint (((script.reports names).flatMap (·.2)).filterMap (·.fix))).Perm
      (((script.lapses names).filter fun lapse =>
        ∀ other ∈ script.lapses names, other.finding.fix ≠ none → ¬ lapse.Inside other).filterMap (·.finding.fix)) := by
  refine ⟨script.reports_findings names, ?_, ?_⟩
  · intro left leftMember right rightMember different edit fixed other otherFixed
    have inside := Lapse.overlaps_iff_inside orderly left right leftMember rightMember different edit other fixed
      otherFixed
    refine ⟨inside, fun same => ?_⟩
    have owns := (script.mem_lapses names left leftMember).1
    have rivals := (script.mem_lapses names right rightMember).1
    rw [← same] at rivals
    by_contra overlapping
    rcases inside.mp (by simpa using overlapping) with ⟨literal, found, below⟩ | ⟨literal, found, below⟩
    · have inThrow := Node.descendant_mem_preorder _ _ (rivals.literal_below literal found)
      exact rivals.not_below_own owns orderly.numbered (Node.descendants_trans _ literal _ inThrow below)
    · have inThrow := Node.descendant_mem_preorder _ _ (owns.literal_below literal found)
      exact owns.not_below_own rivals orderly.numbered (Node.descendants_trans _ literal _ inThrow below)
  · rw [script.reports_fixes names]
    have distinct : ((script.lapses names).filterMap (·.fix)).Nodup := Lapse.fixes_nodup orderly
    refine (List.perm_ext_iff_of_nodup ?_ ?_).mpr fun edit => ?_
    · refine (Edit.select_disjoint_apart _).imp fun pair same => ?_
      exact Int.ne_of_lt pair.1 (congrArg Edit.start same)
    · exact distinct.sublist (List.filter_sublist.filterMap _)
    · constructor
      · intro kept
        obtain ⟨lapse, member, fixed⟩ := List.mem_filterMap.mp (Edit.select_disjoint_subset _ edit kept)
        have clear := (Lapse.mem_kept_iff orderly lapse member edit fixed).mp kept
        exact List.mem_filterMap.mpr ⟨lapse, List.mem_filter.mpr ⟨member, decide_eq_true clear⟩, fixed⟩
      · intro chosen
        obtain ⟨lapse, held, fixed⟩ := List.mem_filterMap.mp chosen
        obtain ⟨member, clear⟩ := List.mem_filter.mp held
        exact (Lapse.mem_kept_iff orderly lapse member edit fixed).mpr (of_decide_eq_true clear)

end Script

theorem nested_throws_fixed :
    nestedThrows.root.Orderly ∧ (nestedThrows.lapses ["Error"]).length = 3 ∧
      (Edit.selectDisjoint (((nestedThrows.reports ["Error"]).flatMap (·.2)).filterMap (·.fix))).Perm
        [⟨28, 64, "\x7b cause: e \x7d"⟩] :=
  ⟨by decide +kernel, by decide +kernel,
    (nestedThrows.overlapping_fixes ["Error"] (by decide +kernel)).2.2.trans (by decide +kernel)⟩

end Rethrow
