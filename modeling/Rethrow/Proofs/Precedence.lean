import Rethrow.Proofs.Alignment

/-!
The order of findings. In a tree that was read without errors no two constructions that are reported start at one
place, so the findings of all handlers, sorted by where they start, are in one order only: that of the text. A throw
inside a reported construction is reported after it.
-/
set_option autoImplicit false

namespace Rethrow

/-- Calls and constructions take up bytes. -/
def Node.Filled (root : Node) : Prop :=
  ∀ node ∈ root.preorder, node.constructor? ≠ none → node.start < node.stop

instance (root : Node) : Decidable root.Filled :=
  inferInstanceAs (Decidable (∀ node ∈ root.preorder, node.constructor? ≠ none → node.start < node.stop))

namespace Owns
open Node

variable {script : Script} {names : List String} {handler other : Handler} {candidate rival : Candidate}

theorem call_below (owns : Owns script names handler candidate) :
    candidate.call ∈ candidate.statement.descendants := by
  obtain ⟨between, constructor, list, rest, made⟩ := owns.shape
  exact descent_below _ _ between made.path

theorem call_mem (owns : Owns script names handler candidate) : candidate.call ∈ script.root.preorder :=
  below_mem _ _ _ owns.statement_mem owns.call_below

theorem call_range (owns : Owns script names handler candidate) (spaced : script.root.Spaced) :
    candidate.statement.start < candidate.call.start ∧ candidate.call.stop ≤ candidate.statement.stop :=
  spaced.throw_range _ _ owns.statement_mem owns.throws owns.call_below

theorem call_forward (owns : Owns script names handler candidate) (filled : script.root.Filled) :
    candidate.call.start < candidate.call.stop := by
  obtain ⟨between, constructor, list, rest, made⟩ := owns.shape
  exact filled candidate.call owns.call_mem (by simp [made.constructed])

theorem call_not_below (owns : Owns script names handler candidate) (spaced : script.root.Spaced)
    (filled : script.root.Filled) (inner : Node) (throws : inner.kind = .throwStatement)
    (below : inner ∈ candidate.statement.descendants) : candidate.call ∉ inner.preorder := by
  intro held
  obtain ⟨between, constructor, list, rest, made⟩ := owns.shape
  rcases (mem_preorder_iff _ _).mp held with same | deeper
  · have kind := made.call_kind
    rw [same, throws] at kind
    simp at kind
  · have unforked := spaced.unforked _ candidate.call owns.statement_mem (owns.call_forward filled)
    have passed := mem_between_of_unforked _ _ inner between unforked made.path below deeper
    rw [made.wrappers inner passed] at throws
    cases throws

-- The inner throw stands inside the construction, or all of it stands before or behind. If before, its own
-- construction ends where the other one starts at the latest, and takes up bytes.
theorem start_ne_of_below (owns : Owns script names handler candidate) (rivals : Owns script names other rival)
    (spaced : script.root.Spaced) (filled : script.root.Filled)
    (below : rival.statement ∈ candidate.statement.descendants) : candidate.call.start ≠ rival.call.start := by
  have range := rivals.call_range spaced
  have forward := owns.call_forward filled
  have rivalForward := rivals.call_forward filled
  rcases spaced.nested_or_apart rival.statement candidate.call rivals.statement_mem owns.call_mem with
    inside | around | before | behind
  · have within := spaced.range_inside candidate.call rival.statement owns.call_mem inside
    omega
  · exact absurd around (owns.call_not_below spaced filled rival.statement rivals.throws below)
  · omega
  · omega

theorem start_ne (owns : Owns script names handler candidate) (rivals : Owns script names other rival)
    (spaced : script.root.Spaced) (filled : script.root.Filled) (different : candidate.statement ≠ rival.statement) :
    candidate.call.start ≠ rival.call.start := by
  have range := owns.call_range spaced
  have rivalRange := rivals.call_range spaced
  have forward := owns.call_forward filled
  have rivalForward := rivals.call_forward filled
  rcases spaced.nested_or_apart candidate.statement rival.statement owns.statement_mem rivals.statement_mem with
    held | held | before | behind
  · have below := ((mem_preorder_iff _ _).mp held).resolve_left different
    exact (rivals.start_ne_of_below owns spaced filled below).symm
  · have below := ((mem_preorder_iff _ _).mp held).resolve_left different.symm
    exact owns.start_ne_of_below rivals spaced filled below
  · omega
  · omega

end Owns

namespace Script

theorem starts_distinct (script : Script) (names : List String) (spaced : script.root.Spaced)
    (filled : script.root.Filled) (separate : script.root.Separate) :
    (script.lapses names).Pairwise fun left right => left.finding.start ≠ right.finding.start := by
  refine (script.lapses_apart names spaced separate).imp_of_mem ?_
  intro left right leftMember rightMember different
  have owns := (script.mem_lapses names left leftMember).1
  have rivals := (script.mem_lapses names right rightMember).1
  exact owns.start_ne rivals spaced filled different

theorem findings_sorted (script : Script) (names : List String) :
    (script.findings names).Pairwise fun left right => left.start ≤ right.start := by
  apply List.Pairwise.imp (fun {_ _} order => of_decide_eq_true order)
  apply List.pairwise_mergeSort
  · intro a b c
    simp only [decide_eq_true_eq]
    omega
  · intro a b
    simp only [Bool.or_eq_true, decide_eq_true_eq]
    omega

theorem findings_increasing (script : Script) (names : List String) (spaced : script.root.Spaced)
    (filled : script.root.Filled) (separate : script.root.Separate) :
    (script.findings names).Pairwise fun left right => left.start < right.start := by
  have distinct : ((script.reports names).flatMap (·.2)).Pairwise fun left right => left.start ≠ right.start := by
    rw [script.reports_findings names, List.pairwise_map]
    exact script.starts_distinct names spaced filled separate
  have apart : (script.findings names).Pairwise fun left right => left.start ≠ right.start :=
    ((script.findings_perm names).symm.pairwise_iff fun {left right} different => different.symm).mp distinct
  refine ((script.findings_sorted names).and apart).imp ?_
  intro left right both
  exact Nat.lt_of_le_of_ne both.1 both.2

end Script

theorem Finding.sublist_of_lt (findings : List Finding) (first second : Finding)
    (increasing : findings.Pairwise fun left right => left.start < right.start) (member : first ∈ findings)
    (held : second ∈ findings) (order : first.start < second.start) : [first, second].Sublist findings := by
  obtain ⟨before, behind, rfl⟩ := List.append_of_mem member
  obtain ⟨_, later, earlier⟩ := List.pairwise_append.mp increasing
  rcases List.mem_append.mp held with inFront | rest
  · have := earlier second inFront first List.mem_cons_self
    omega
  · rcases List.mem_cons.mp rest with rfl | after
    · omega
    · exact ((List.singleton_sublist.mpr after).cons_cons first).trans (List.sublist_append_right before _)

-- A finding does not say which throw it is about; the last statement takes that from the lapse it is made of.
theorem Reader.findings_in_order (read : Reader) (settings : Settings) (source suffix : String) (dialect : Dialect)
    (supported : Dialect.ofSuffix? suffix = some dialect) (spaced : (read dialect source).root.Spaced)
    (filled : (read dialect source).root.Filled) (separate : (read dialect source).root.Separate) :
    ∃ findings, read.analyze settings source suffix = .ok findings ∧
      findings.Perm (((read dialect source).reports settings.constructors).flatMap (·.2)) ∧
      (findings.Pairwise fun left right => left.start < right.start) ∧
      ((read dialect source).reports settings.constructors).flatMap (·.2) =
        ((read dialect source).lapses settings.constructors).map (·.finding) ∧
      ∀ inner ∈ (read dialect source).lapses settings.constructors,
        ∀ outer ∈ (read dialect source).lapses settings.constructors,
          inner.candidate.statement ∈ outer.candidate.call.descendants →
            [outer.finding, inner.finding].Sublist findings := by
  have increasing := (read dialect source).findings_increasing settings.constructors spaced filled separate
  have permuted := (read dialect source).findings_perm settings.constructors
  have made := (read dialect source).reports_findings settings.constructors
  refine ⟨_, analyze_supported supported, permuted, increasing, made, ?_⟩
  intro inner innerMember outer outerMember inside
  have listed : ∀ lapse ∈ (read dialect source).lapses settings.constructors,
      lapse.finding ∈ (read dialect source).findings settings.constructors := by
    intro lapse held
    rw [permuted.mem_iff, made]
    exact List.mem_map_of_mem held
  have owns := ((read dialect source).mem_lapses settings.constructors outer outerMember).1
  have rivals := ((read dialect source).mem_lapses settings.constructors inner innerMember).1
  refine Finding.sublist_of_lt _ _ _ increasing (listed outer outerMember) (listed inner innerMember) ?_
  have within := spaced.range_inside _ _ owns.call_mem (Node.descendant_mem_preorder _ _ inside)
  have range := rivals.call_range spaced
  change outer.candidate.call.start < inner.candidate.call.start
  omega

/-- The outer handler is listed first. Its throw stands between those of the two inner handlers, and the last of these
stands inside what it constructs. -/
def stackedSource : String :=
  "try\x7b\x7dcatch(e)\x7btry\x7b\x7dcatch(x)\x7bthrow Error(1)\x7dthrow Error(2,()=>\x7btry\x7b\x7dcatch(y)\x7bthrow Error(3)\x7d\x7d)\x7d"

def stackedThrows : Script := .parse .script stackedSource

theorem stacked_throws_ordered :
    Dialect.ofSuffix? ".js" = some .script ∧ stackedThrows.root.Spaced ∧ stackedThrows.root.Filled ∧
      stackedThrows.root.Separate ∧
      (∃ inner ∈ stackedThrows.lapses ["Error"], ∃ outer ∈ stackedThrows.lapses ["Error"],
        inner.candidate.statement ∈ outer.candidate.call.descendants) ∧
      (stackedThrows.lapses ["Error"]).map (·.finding.start) = [49, 34, 82] ∧
      ∃ findings, analyze {} stackedSource ".js" = .ok findings ∧ findings.map (·.start) = [34, 49, 82] := by
  have supported : Dialect.ofSuffix? ".js" = some .script := by decide +kernel
  obtain ⟨spaced, filled, separate, nested, listed⟩ :
      stackedThrows.root.Spaced ∧ stackedThrows.root.Filled ∧ stackedThrows.root.Separate ∧
        (∃ inner ∈ stackedThrows.lapses ["Error"], ∃ outer ∈ stackedThrows.lapses ["Error"],
          inner.candidate.statement ∈ outer.candidate.call.descendants) ∧
        (stackedThrows.lapses ["Error"]).map (·.finding.start) = [49, 34, 82] := by decide +kernel
  obtain ⟨findings, done, permuted, increasing, made, _⟩ :=
    Reader.findings_in_order Script.parse {} stackedSource ".js" .script supported spaced filled separate
  refine ⟨supported, spaced, filled, separate, nested, listed, findings, done, ?_⟩
  have starts : (findings.map (·.start)).Perm [49, 34, 82] := by
    have shifted := permuted.map (·.start)
    rw [made, List.map_map] at shifted
    exact listed ▸ shifted
  exact (starts.trans (by decide)).eq_of_pairwise (fun left right _ _ before after => absurd before (by omega))
    (List.pairwise_map.mpr increasing) (by decide)

end Rethrow
