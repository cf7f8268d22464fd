import Rethrow.Proofs.Ownership

/-!
What the search leaves out. A throw whose nearest scope is a catch clause, and which stands in the clause's body, is
found for the clause's handler unless it stands inside another throw there. Such a throw is found for no handler.
-/
set_option autoImplicit false

namespace Rethrow

namespace Node

/-- The clause is the nearest scope around the statement, and the statement stands in its body. -/
structure Enclosed (root clause body statement : Node) : Prop where
  clause_mem : clause ∈ root.preorder
  clause_kind : clause.kind = .catchClause
  is_body : clause.child? .body = some body
  inside : statement ∈ body.descendants
  nearest : ∀ scope ∈ root.preorder, scope.kind.isBoundary = true → statement ∈ scope.descendants →
    clause ∈ scope.preorder

instance (root clause body statement : Node) : Decidable (root.Enclosed clause body statement) :=
  decidable_of_iff
    (clause ∈ root.preorder ∧ clause.kind = .catchClause ∧ clause.child? .body = some body ∧
      statement ∈ body.descendants ∧ ∀ scope ∈ root.preorder, scope.kind.isBoundary = true →
        statement ∈ scope.descendants → clause ∈ scope.preorder)
    ⟨fun ⟨a, b, c, d, e⟩ => ⟨a, b, c, d, e⟩, fun ⟨a, b, c, d, e⟩ => ⟨a, b, c, d, e⟩⟩

/-- Another throw stands between the body and the statement. -/
def Shadowed (body statement : Node) : Prop :=
  ∃ outer ∈ body.descendants, outer.kind = .throwStatement ∧ statement ∈ outer.descendants

instance (body statement : Node) : Decidable (body.Shadowed statement) :=
  inferInstanceAs (Decidable (∃ outer ∈ body.descendants, _ ∧ _))

namespace Enclosed

variable {root clause body statement : Node}

theorem body_child (enclosed : root.Enclosed clause body statement) : body ∈ clause.children :=
  (child_of_role _ _ _ enclosed.is_body).1

-- A scope inside the clause does not hold the statement, or it would be nearer.
theorem scope_apart (enclosed : root.Enclosed clause body statement) (scope : Node)
    (below : scope ∈ clause.descendants) (boundary : scope.kind.isBoundary = true) :
    statement ∉ scope.descendants := by
  intro above
  have member := below_mem root clause scope enclosed.clause_mem below
  exact descendants_asymm clause scope below (enclosed.nearest scope member boundary above)

theorem between_kind (enclosed : root.Enclosed clause body statement) (middle : Node)
    (below : middle ∈ body.descendants) (above : statement ∈ middle.descendants) : middle.kind.isBoundary = false := by
  have inClause := preorder_descendants_trans clause body middle (child_mem_descendants _ _ enclosed.body_child)
    (descendant_mem_preorder _ _ below)
  by_contra boundary
  exact enclosed.scope_apart middle inClause (by simpa using boundary) above

theorem reaches (enclosed : root.Enclosed clause body statement) (clear : ¬ body.Shadowed statement) :
    body.Reaches statement := by
  obtain ⟨between, path⟩ := exists_descent body statement enclosed.inside
  refine ⟨between, path, ?_⟩
  intro middle held
  obtain ⟨below, above⟩ := descent_between body statement middle between path held
  have free := enclosed.between_kind middle below above
  refine ⟨?_, ?_, ?_⟩
  · intro kind
    simp [kind, Kind.isBoundary] at free
  · intro kind
    simp [kind, Kind.isBoundary] at free
  · intro kind
    exact clear ⟨middle, below, kind, above⟩

end Enclosed
end Node

namespace Script
open Node

variable {script : Script} {names : List String} {clause body statement : Node}

theorem between_in_body (numbered : script.root.Numbered) (enclosed : script.root.Enclosed clause body statement)
    (handler : Handler) (candidate : Candidate) (owns : Owns script names handler candidate)
    (found : candidate.statement = statement) (outer : Node) (below : outer ∈ body.descendants)
    (above : statement ∈ outer.descendants) : outer ∈ handler.body.descendants := by
  have bodyBelow := child_mem_descendants clause body enclosed.body_child
  have bodyMember := below_mem script.root clause body enclosed.clause_mem bodyBelow
  have outerMember := below_mem script.root body outer bodyMember below
  have inBody : statement ∈ handler.body.descendants := found ▸ owns.below_body
  -- A body inside the outer node would bring its clause with it, a scope nearer to the statement.
  have apart : handler.body ∉ outer.preorder := by
    intro held
    have deeper := preorder_descendants_trans body outer handler.body below held
    have clauseHeld := parent_inside script.root body handler.clause handler.body numbered bodyMember owns.clause_mem
      owns.body_child deeper
    have inClause := preorder_descendants_trans handler.clause handler.body statement
      (child_mem_descendants _ _ owns.body_child) (descendant_mem_preorder _ _ inBody)
    exact enclosed.scope_apart handler.clause (preorder_descendants_trans clause body _ bodyBelow clauseHeld)
      (by simp [owns.clause_kind, Kind.isBoundary]) inClause
  rcases preorder_nested script.root outer handler.body statement numbered outerMember owns.body_mem
    (descendant_mem_preorder _ _ above) (descendant_mem_preorder _ _ inBody) with held | held
  · refine ((mem_preorder_iff _ _).mp held).resolve_left fun same => ?_
    exact apart (same ▸ self_mem_preorder outer)
  · exact absurd held apart

theorem shadowed_not_found (names : List String) (numbered : script.root.Numbered)
    (enclosed : script.root.Enclosed clause body statement) (shadowed : body.Shadowed statement) :
    ∀ handler ∈ script.handlers, ∀ candidate ∈ script.candidates names handler, candidate.statement ≠ statement := by
  intro handler member candidate held found
  obtain ⟨outer, below, throws, above⟩ := shadowed
  have owns : Owns script names handler candidate := ⟨member, held⟩
  have inBody := between_in_body numbered enclosed handler candidate owns found outer below above
  exact (owns.between_kind numbered outer inBody (found ▸ above)).2.2 throws

theorem exists_handler (enclosed : script.root.Enclosed clause body statement) :
    ∃ handler ∈ script.handlers, handler.clause = clause ∧ handler.body = body := by
  refine ⟨⟨clause, body, script.boundName clause⟩, ?_, rfl, rfl⟩
  rw [handlers, walk_eq, List.mem_filterMap]
  exact ⟨clause, enclosed.clause_mem, by simp [handler?, enclosed.clause_kind, enclosed.is_body]⟩

theorem missed_iff_inside_throw (script : Script) (names : List String) (numbered : script.root.Numbered)
    (clause body statement : Node) (enclosed : script.root.Enclosed clause body statement)
    (throws : statement.kind = .throwStatement) (constructs : script.candidate? names statement ≠ none) :
    (∃ handler ∈ script.handlers, handler.clause = clause ∧
      ((∃ candidate ∈ script.candidates names handler, candidate.statement = statement) ↔
        ¬ body.Shadowed statement)) ∧
    (body.Shadowed statement → ∀ handler ∈ script.handlers, ∀ candidate ∈ script.candidates names handler,
      candidate.statement ≠ statement) := by
  have missed := shadowed_not_found names numbered enclosed
  obtain ⟨handler, member, ownClause, ownBody⟩ := exists_handler enclosed
  refine ⟨⟨handler, member, ownClause, ?_⟩, missed⟩
  constructor
  · rintro ⟨candidate, held, found⟩ shadowed
    exact missed shadowed handler member candidate held found
  · intro clear
    obtain ⟨candidate, made⟩ := Option.ne_none_iff_exists'.mp constructs
    have same := (script.candidate_inversion names statement candidate made).1
    subst same
    have reaches := enclosed.reaches clear
    rw [← ownBody] at reaches
    exact ⟨candidate, (script.mem_candidates_iff names handler candidate).mpr ⟨reaches, throws, made⟩, rfl⟩

end Script

/-- The second throw stands in a static block of a class, which runs at once, in the arguments of the first. -/
def shadowedThrow : Script := .parse .script
  "try\x7b\x7dcatch(e)\x7bthrow Error(1,class\x7bstatic\x7bthrow Error(2)\x7d\x7d)\x7d"

theorem shadowed_throw_missed :
    ∃ clause body statement, shadowedThrow.root.Numbered ∧ shadowedThrow.root.Enclosed clause body statement ∧
      statement.kind = .throwStatement ∧ shadowedThrow.candidate? ["Error"] statement ≠ none ∧
      body.Shadowed statement ∧ ∀ handler ∈ shadowedThrow.handlers,
        ∀ candidate ∈ shadowedThrow.candidates ["Error"] handler, candidate.statement ≠ statement := by
  let node := fun index => shadowedThrow.root.preorder.getD index default
  refine ⟨node 3, node 5, node 14, ?_⟩
  have numbered : shadowedThrow.root.Numbered := by decide +kernel
  have enclosed : shadowedThrow.root.Enclosed (node 3) (node 5) (node 14) := by decide +kernel
  have throws : (node 14).kind = .throwStatement := by decide +kernel
  have constructs : shadowedThrow.candidate? ["Error"] (node 14) ≠ none := by decide +kernel
  have shadowed : (node 5).Shadowed (node 14) := by decide +kernel
  have missed := shadowedThrow.missed_iff_inside_throw ["Error"] numbered (node 3) (node 5) (node 14) enclosed throws
    constructs
  exact ⟨numbered, enclosed, throws, constructs, shadowed, missed.2 shadowed⟩

end Rethrow
