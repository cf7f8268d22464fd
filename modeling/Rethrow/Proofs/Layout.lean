import Mathlib.Data.List.Basic
import Rethrow.Finding
import Rethrow.Proofs.Ownership
import Rethrow.Proofs.Selection

/-!
The byte ranges of a tree that was read without errors. Two nodes of such a tree are nested or apart, and the edit of
a throw lies strictly inside the throw.
-/
set_option autoImplicit false

namespace Rethrow

/-- Ranges that nest as the nodes do and follow the order of the children. The keyword of a throw takes up bytes. -/
structure Node.Spaced (root : Node) : Prop where
  forward : ∀ node ∈ root.preorder, node.start ≤ node.stop
  inside : ∀ node ∈ root.preorder, ∀ child ∈ node.children, node.start ≤ child.start ∧ child.stop ≤ node.stop
  apart : ∀ node ∈ root.preorder, node.children.Pairwise fun left right => left.stop ≤ right.start
  keyword : ∀ node ∈ root.preorder, node.kind = .throwStatement → ∀ child ∈ node.children, node.start < child.start

instance (root : Node) : Decidable root.Spaced :=
  decidable_of_iff
    ((∀ node ∈ root.preorder, node.start ≤ node.stop) ∧
      (∀ node ∈ root.preorder, ∀ child ∈ node.children, node.start ≤ child.start ∧ child.stop ≤ node.stop) ∧
      (∀ node ∈ root.preorder, node.children.Pairwise fun left right => left.stop ≤ right.start) ∧
      ∀ node ∈ root.preorder, node.kind = .throwStatement → ∀ child ∈ node.children, node.start < child.start)
    ⟨fun ⟨a, b, c, d⟩ => ⟨a, b, c, d⟩, fun ⟨a, b, c, d⟩ => ⟨a, b, c, d⟩⟩

/-- What the ranges of an error-free parse satisfy. The last three fields are the bytes of the keyword and of the
delimiters, and the rule of the grammar that the body of a clause is a block. -/
structure Node.Orderly (root : Node) : Prop where
  numbered : root.Numbered
  forward : ∀ node ∈ root.preorder, node.start ≤ node.stop
  inside : ∀ node ∈ root.preorder, ∀ child ∈ node.children, node.start ≤ child.start ∧ child.stop ≤ node.stop
  apart : ∀ node ∈ root.preorder, node.children.Pairwise fun left right => left.stop ≤ right.start
  keyword : ∀ node ∈ root.preorder, node.kind = .throwStatement → ∀ child ∈ node.children, node.start < child.start
  delimited : ∀ node ∈ root.preorder, node.kind = .arguments ∨ node.kind = .object →
    ∀ child ∈ node.children, node.start < child.start ∧ child.stop < node.stop
  separate : root.Separate

instance (root : Node) : Decidable root.Orderly :=
  decidable_of_iff
    (root.Numbered ∧ (∀ node ∈ root.preorder, node.start ≤ node.stop) ∧
      (∀ node ∈ root.preorder, ∀ child ∈ node.children, node.start ≤ child.start ∧ child.stop ≤ node.stop) ∧
      (∀ node ∈ root.preorder, node.children.Pairwise fun left right => left.stop ≤ right.start) ∧
      (∀ node ∈ root.preorder, node.kind = .throwStatement → ∀ child ∈ node.children, node.start < child.start) ∧
      (∀ node ∈ root.preorder, node.kind = .arguments ∨ node.kind = .object →
        ∀ child ∈ node.children, node.start < child.start ∧ child.stop < node.stop) ∧ root.Separate)
    ⟨fun ⟨a, b, c, d, e, f, g⟩ => ⟨a, b, c, d, e, f, g⟩, fun ⟨a, b, c, d, e, f, g⟩ => ⟨a, b, c, d, e, f, g⟩⟩

theorem pairwise_cases {α : Type} {related : α → α → Prop} (items : List α) (pairs : items.Pairwise related)
    (left right : α) (leftMember : left ∈ items) (rightMember : right ∈ items) :
    left = right ∨ related left right ∨ related right left := by
  induction items with
  | nil => simp at leftMember
  | cons head rest ih =>
      obtain ⟨first, later⟩ := List.pairwise_cons.mp pairs
      rcases List.mem_cons.mp leftMember with rfl | inLeft <;> rcases List.mem_cons.mp rightMember with rfl | inRight
      · exact .inl rfl
      · exact .inr (.inl (first right inRight))
      · exact .inr (.inr (first left inLeft))
      · exact ih later inLeft inRight

namespace Node.Spaced

variable {root : Node}

theorem range_inside (spaced : root.Spaced) (outer inner : Node) (member : outer ∈ root.preorder)
    (held : inner ∈ outer.preorder) : outer.start ≤ inner.start ∧ inner.stop ≤ outer.stop := by
  induction outer using tree_induction with
  | step outer ih =>
      rcases (mem_preorder_iff outer inner).mp held with rfl | below
      · exact ⟨Nat.le_refl _, Nat.le_refl _⟩
      · obtain ⟨child, direct, deeper⟩ := (mem_descendants_iff outer inner).mp below
        have childMember := child_mem root outer child member direct
        have near := spaced.inside outer member child direct
        have far := ih child direct childMember deeper
        omega

theorem throw_range (spaced : root.Spaced) (statement target : Node) (member : statement ∈ root.preorder)
    (throws : statement.kind = .throwStatement) (below : target ∈ statement.descendants) :
    statement.start < target.start ∧ target.stop ≤ statement.stop := by
  obtain ⟨child, direct, held⟩ := (mem_descendants_iff statement target).mp below
  have childMember := child_mem root statement child member direct
  have after := spaced.keyword statement member throws child direct
  have near := spaced.inside statement member child direct
  have range := spaced.range_inside child target childMember held
  omega

theorem nested_or_apart (spaced : root.Spaced) (left right : Node) (leftMember : left ∈ root.preorder)
    (rightMember : right ∈ root.preorder) :
    left ∈ right.preorder ∨ right ∈ left.preorder ∨ left.stop ≤ right.start ∨ right.stop ≤ left.start := by
  -- The induction runs down from the root along nodes that hold both.
  have common : ∀ node : Node, node ∈ root.preorder → left ∈ node.preorder → right ∈ node.preorder →
      left ∈ right.preorder ∨ right ∈ left.preorder ∨ left.stop ≤ right.start ∨ right.stop ≤ left.start := by
    intro node
    induction node using tree_induction with
    | step node ih =>
        intro member leftHeld rightHeld
        rcases (mem_preorder_iff node left).mp leftHeld with rfl | leftBelow
        · exact .inr (.inl rightHeld)
        rcases (mem_preorder_iff node right).mp rightHeld with rfl | rightBelow
        · exact .inl leftHeld
        obtain ⟨child, direct, inChild⟩ := (mem_descendants_iff node left).mp leftBelow
        obtain ⟨other, otherDirect, inOther⟩ := (mem_descendants_iff node right).mp rightBelow
        have childMember := child_mem root node child member direct
        have otherMember := child_mem root node other member otherDirect
        have leftRange := spaced.range_inside child left childMember inChild
        have rightRange := spaced.range_inside other right otherMember inOther
        rcases pairwise_cases node.children (spaced.apart node member) child other direct otherDirect with
          rfl | before | after
        · exact ih child direct childMember inChild inOther
        · exact .inr (.inr (.inl (by omega)))
        · exact .inr (.inr (.inr (by omega)))
  exact common root (self_mem_preorder root) leftMember rightMember

-- Siblings do not share bytes, so only one of them leads on to a node that takes up bytes.
theorem unforked (spaced : root.Spaced) (node target : Node) (member : node ∈ root.preorder)
    (filled : target.start < target.stop) : node.Unforked target := by
  intro parent held left leftDirect right rightDirect inLeft inRight
  have parentMember := preorder_trans root node parent member held
  have leftRange := spaced.range_inside left target (child_mem root parent left parentMember leftDirect) inLeft
  have rightRange := spaced.range_inside right target (child_mem root parent right parentMember rightDirect) inRight
  rcases pairwise_cases parent.children (spaced.apart parent parentMember) left right leftDirect rightDirect with
    same | before | after
  · exact same
  · omega
  · omega

theorem preorder_ordered (spaced : root.Spaced) (node : Node) (member : node ∈ root.preorder) :
    node.preorder.Pairwise fun left right => right ∈ left.descendants ∨ left.stop ≤ right.start := by
  induction node using tree_induction with
  | step node ih =>
      rw [preorder_eq, List.pairwise_cons]
      refine ⟨fun right below => .inl below, ?_⟩
      have below := fun child direct => child_mem root node child member direct
      rw [preorder_all_eq, List.pairwise_flatMap]
      refine ⟨fun child direct => ih child direct (below child direct), (spaced.apart node member).imp_of_mem ?_⟩
      intro child other direct otherDirect before left inChild right inOther
      have leftRange := spaced.range_inside child left (below child direct) inChild
      have rightRange := spaced.range_inside other right (below other otherDirect) inOther
      exact .inr (by omega)

end Node.Spaced

theorem Node.Orderly.spaced {root : Node} (orderly : root.Orderly) : root.Spaced :=
  ⟨orderly.forward, orderly.inside, orderly.apart, orderly.keyword⟩

namespace Candidate

theorem literal_inversion (candidate : Candidate) (literal : Node) (found : candidate.literal? = some literal) :
    candidate.options = some literal ∧ literal.kind = .object := by
  simpa [literal?, Option.filter_eq_some_iff] using found

theorem fix_inversion (candidate : Candidate) (name : String) (edit : Edit) (fixed : candidate.fix name = some edit) :
    (candidate.options = none ∧ edit = ⟨candidate.message.stop, candidate.message.stop, ", " ++ causeLiteral name⟩) ∨
      ∃ literal, candidate.literal? = some literal ∧ edit = ⟨literal.start, literal.stop, causeLiteral name⟩ := by
  cases options : candidate.options with
  | none =>
      simp only [fix, options, Option.some.injEq] at fixed
      exact .inl ⟨rfl, fixed.symm⟩
  | some node =>
      simp only [fix, options] at fixed
      obtain ⟨literal, found, rfl⟩ := Option.map_eq_some_iff.mp fixed
      exact .inr ⟨literal, found, rfl⟩

namespace Made

variable {script : Script} {names : List String} {candidate : Candidate} {between rest : List Node}
  {constructor list : Node}

theorem list_child (made : candidate.Made script names between constructor list rest) :
    list ∈ candidate.call.children := (Node.child_of_role _ _ _ made.arguments).1

theorem message_child (made : candidate.Made script names between constructor list rest) :
    candidate.message ∈ list.children :=
  Node.significant_head_mem list candidate.message (by simp [made.significant])

theorem list_path (made : candidate.Made script names between constructor list rest) :
    candidate.statement.Descent (between ++ [candidate.call]) list :=
  Node.descent_snoc _ _ _ between made.path made.list_child

theorem list_below (made : candidate.Made script names between constructor list rest) :
    list ∈ candidate.statement.descendants := Node.descent_below _ _ _ made.list_path

theorem call_kind (made : candidate.Made script names between constructor list rest) :
    candidate.call.kind = .construction ∨ candidate.call.kind = .call := by
  have constructed := made.constructed
  unfold Node.constructor? at constructed
  split at constructed
  · exact .inl (by assumption)
  · exact .inr (by assumption)
  · cases constructed

theorem path_kind (made : candidate.Made script names between constructor list rest) (node : Node)
    (member : node ∈ between ++ [candidate.call]) :
    node.kind = .parenthesized ∨ node.kind = .construction ∨ node.kind = .call := by
  rcases List.mem_append.mp member with wrapper | last
  · exact .inl (made.wrappers node wrapper)
  · have same := List.mem_singleton.mp last
    subst same
    exact .inr made.call_kind

theorem above_list (made : candidate.Made script names between constructor list rest)
    (numbered : candidate.statement.Numbered) (middle : Node) (below : middle ∈ candidate.statement.descendants)
    (above : list ∈ middle.descendants) :
    middle.kind = .parenthesized ∨ middle.kind = .construction ∨ middle.kind = .call :=
  made.path_kind middle (Node.mem_between _ list middle _ numbered made.list_path below above)

theorem literal_head (made : candidate.Made script names between constructor list rest) (literal : Node)
    (found : candidate.literal? = some literal) :
    candidate.message.kind ≠ .spread ∧ rest.head? = some literal := by
  obtain ⟨options, kind⟩ := candidate.literal_inversion literal found
  have chosen := made.options
  rw [options] at chosen
  by_cases spread : candidate.message.kind = .spread
  · rw [if_pos spread] at chosen
    have same := Option.some.inj chosen
    rw [same, spread] at kind
    cases kind
  · rw [if_neg spread] at chosen
    exact ⟨spread, chosen.symm⟩

theorem literal_child (made : candidate.Made script names between constructor list rest) (literal : Node)
    (found : candidate.literal? = some literal) : literal ∈ list.children := by
  have later := List.mem_of_head? (made.literal_head literal found).2
  have listed : literal ∈ list.significant := made.significant ▸ List.mem_cons_of_mem _ later
  exact ((Node.mem_significant_iff list literal).mp listed).1

end Made
end Candidate
end Rethrow
