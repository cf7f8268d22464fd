import Mathlib.Data.List.Nodup
import Mathlib.Data.Option.Basic
import Rethrow.Candidate
import Rethrow.Grammar.Program
import Rethrow.Proofs.Tree

/-!
Which handler a throw belongs to. The search of a handler's body finds a throw exactly if nothing on the path from the
body to it ends the handler's scope, and no two handlers find the same throw.
-/
set_option autoImplicit false

namespace Rethrow

/-- A search that starts below `body` gets to the target: no node on the way is a function, a clause or a throw. -/
def Node.Reaches (body target : Node) : Prop :=
  ∃ between, body.Descent between target ∧
    ∀ node ∈ between, node.kind ≠ .function ∧ node.kind ≠ .catchClause ∧ node.kind ≠ .throwStatement

/-- No catch clause is the body of another one. -/
def Node.Separate (root : Node) : Prop :=
  ∀ clause ∈ root.preorder, clause.kind = .catchClause →
    ∀ body ∈ clause.child? .body, body.kind ≠ .catchClause

instance (root : Node) : Decidable root.Separate :=
  inferInstanceAs (Decidable (∀ clause ∈ root.preorder, clause.kind = .catchClause →
    ∀ body ∈ clause.child? .body, body.kind ≠ .catchClause))

namespace Node

theorem child_of_role (node child : Node) (role : Role) (found : node.child? role = some child) :
    child ∈ node.children ∧ child.role = some role :=
  ⟨List.mem_of_find?_eq_some found, by simpa using List.find?_some found⟩

theorem first_unwrapped_eq (nodes : List Node) :
    firstUnwrapped nodes = (nodes.filter fun node => node.kind ≠ .comment).head?.bind unwrapped := by
  induction nodes with
  | nil => rfl
  | cons node rest ih =>
      by_cases comment : node.kind = .comment
      · simpa [firstUnwrapped, comment] using ih
      · simp [firstUnwrapped, comment]

theorem unwrapped_eq (node : Node) :
    node.unwrapped = if node.kind = .parenthesized then node.significant.head?.bind unwrapped else some node := by
  obtain ⟨mark, children⟩ := node
  by_cases wrapped : mark.kind = .parenthesized
  · have here : (Node.mk mark children).kind = .parenthesized := wrapped
    rw [unwrapped, if_pos wrapped, if_pos here, first_unwrapped_eq]
    rfl
  · have here : ¬ (Node.mk mark children).kind = .parenthesized := wrapped
    rw [unwrapped, if_neg wrapped, if_neg here]

theorem mem_significant_iff (node child : Node) :
    child ∈ node.significant ↔ child ∈ node.children ∧ child.kind ≠ .comment := by
  simp [significant]

theorem significant_head_mem (node child : Node) (first : node.significant.head? = some child) :
    child ∈ node.children := ((mem_significant_iff node child).mp (List.mem_of_head? first)).1

theorem unwrapped_descent (parent node call : Node) (member : node ∈ parent.children)
    (found : node.unwrapped = some call) :
    ∃ between, parent.Descent between call ∧ ∀ wrapper ∈ between, wrapper.kind = .parenthesized := by
  induction node using tree_induction generalizing parent with
  | step node ih =>
      rw [unwrapped_eq] at found
      by_cases wrapped : node.kind = .parenthesized
      · rw [if_pos wrapped] at found
        obtain ⟨inner, first, rest⟩ := Option.bind_eq_some_iff.mp found
        have direct := significant_head_mem node inner first
        obtain ⟨between, path, wrappers⟩ := ih inner direct node direct rest
        refine ⟨node :: between, .step parent node call between member path, ?_⟩
        intro wrapper held
        rcases List.mem_cons.mp held with same | later
        · rw [same, wrapped]
        · exact wrappers wrapper later
      · rw [if_neg wrapped] at found
        cases found
        exact ⟨[], .child parent call member, by simp⟩

theorem descent_snoc (node middle target : Node) (between : List Node) (path : node.Descent between middle)
    (member : target ∈ middle.children) : node.Descent (between ++ [middle]) target := by
  induction path with
  | child node middle direct => exact .step node middle target [] direct (.child middle target member)
  | step node first middle between direct rest ih => exact .step node first target _ direct (ih member)

end Node

/-- Everything that makes a throw a candidate, said once. -/
structure Candidate.Made (script : Script) (names : List String) (candidate : Candidate) (between : List Node)
    (constructor list : Node) (rest : List Node) : Prop where
  path : candidate.statement.Descent between candidate.call
  wrappers : ∀ node ∈ between, node.kind = .parenthesized
  constructed : candidate.call.constructor? = some constructor
  named : script.text constructor ∈ names
  arguments : candidate.call.child? .arguments = some list
  listKind : list.kind = .arguments
  significant : list.significant = candidate.message :: rest
  options : candidate.options = if candidate.message.kind = .spread then some candidate.message else rest.head?

namespace Script

theorem candidate_inversion (script : Script) (names : List String) (statement : Node) (candidate : Candidate)
    (made : script.candidate? names statement = some candidate) :
    candidate.statement = statement ∧
      ∃ between constructor list rest, candidate.Made script names between constructor list rest := by
  simp only [candidate?, Node.argumentNodes?, Option.bind_eq_bind, Option.bind_eq_some_iff, Option.guard_eq_some',
    Option.pure_def, Option.some.injEq] at made
  obtain ⟨expression, first, call, unwrapped, constructor, constructed, _, named, arguments, found, made⟩ := made
  obtain ⟨list, isList, _, listKind, rfl⟩ := found
  cases significant : list.significant with
  | nil => simp [significant] at made
  | cons message rest =>
      obtain ⟨between, path, wrappers⟩ := Node.unwrapped_descent statement expression call
        (Node.significant_head_mem statement expression first) unwrapped
      simp only [significant, Option.some.injEq] at made
      subst made
      exact ⟨rfl, between, constructor, list, rest, path, wrappers, constructed, named, isList, listKind,
        significant, rfl⟩

theorem visit_boundary (script : Script) (names : List String) (node : Node)
    (boundary : node.kind = .function ∨ node.kind = .catchClause) : script.visit names node = some [] := by
  rcases boundary with kind | kind <;> simp [visit, kind, Kind.isBoundary]

theorem visit_throw (script : Script) (names : List String) (node : Node) (kind : node.kind = .throwStatement) :
    script.visit names node = some (script.candidate? names node).toList := by
  simp [visit, kind, Kind.isBoundary]

theorem visit_other (script : Script) (names : List String) (node : Node)
    (kind : node.kind ≠ .function ∧ node.kind ≠ .catchClause ∧ node.kind ≠ .throwStatement) :
    script.visit names node = none := by
  simp [visit, kind, Kind.isBoundary]

theorem reaches_step (node middle target : Node) (member : middle ∈ node.children)
    (kind : middle.kind ≠ .function ∧ middle.kind ≠ .catchClause ∧ middle.kind ≠ .throwStatement)
    (reaches : middle.Reaches target) : node.Reaches target := by
  obtain ⟨between, path, clear⟩ := reaches
  refine ⟨middle :: between, .step node middle target between member path, ?_⟩
  intro other held
  rcases List.mem_cons.mp held with same | later
  · exact same ▸ kind
  · exact clear other later

-- The search, node by node: what it finds below a node is what can be reached from it.
theorem mem_harvest_children_iff (script : Script) (names : List String) (node : Node) (candidate : Candidate) :
    candidate ∈ Node.harvestAll (script.visit names) node.children ↔
      ∃ statement, node.Reaches statement ∧ statement.kind = .throwStatement ∧
        script.candidate? names statement = some candidate := by
  induction node using Node.tree_induction with
  | step node ih =>
      rw [Node.harvest_all_eq, List.mem_flatMap]
      constructor
      · rintro ⟨child, member, found⟩
        rw [Node.harvest_eq] at found
        by_cases boundary : child.kind = .function ∨ child.kind = .catchClause
        · simp [visit_boundary script names child boundary] at found
        · by_cases kind : child.kind = .throwStatement
          · rw [visit_throw script names child kind] at found
            exact ⟨child, ⟨[], .child node child member, by simp⟩, kind, by simpa using found⟩
          · have free : child.kind ≠ .function ∧ child.kind ≠ .catchClause ∧ child.kind ≠ .throwStatement := by
              simp_all
            rw [visit_other script names child free, Option.getD_none, ih child member] at found
            obtain ⟨statement, reaches, throws, made⟩ := found
            exact ⟨statement, reaches_step node child statement member free reaches, throws, made⟩
      · rintro ⟨statement, ⟨between, path, clear⟩, throws, made⟩
        cases path with
        | child _ _ member =>
            refine ⟨statement, member, ?_⟩
            rw [Node.harvest_eq, visit_throw script names statement throws]
            simp [made]
        | step _ middle _ rest member path =>
            refine ⟨middle, member, ?_⟩
            rw [Node.harvest_eq, visit_other script names middle (clear middle List.mem_cons_self), Option.getD_none,
              ih middle member]
            exact ⟨statement, ⟨rest, path, fun other held => clear other (List.mem_cons_of_mem _ held)⟩, throws, made⟩

theorem mem_candidates_iff (script : Script) (names : List String) (handler : Handler) (candidate : Candidate) :
    candidate ∈ script.candidates names handler ↔
      handler.body.Reaches candidate.statement ∧ candidate.statement.kind = .throwStatement ∧
        script.candidate? names candidate.statement = some candidate := by
  rw [candidates, Node.gather_eq, mem_harvest_children_iff]
  constructor
  · rintro ⟨statement, reaches, throws, made⟩
    have same := (candidate_inversion script names statement candidate made).1
    subst same
    exact ⟨reaches, throws, made⟩
  · rintro ⟨reaches, throws, made⟩
    exact ⟨candidate.statement, reaches, throws, made⟩

theorem handler_clause (script : Script) (node : Node) (handler : Handler)
    (found : script.handler? node = some handler) : handler.clause = node := by
  simp only [handler?, Option.bind_eq_bind, Option.bind_eq_some_iff, Option.guard_eq_some', Option.pure_def,
    Option.some.injEq] at found
  obtain ⟨_, _, _, _, rfl⟩ := found
  rfl

theorem handler_inversion (script : Script) (handler : Handler) (member : handler ∈ script.handlers) :
    handler.clause ∈ script.root.preorder ∧ script.handler? handler.clause = some handler ∧
      handler.clause.kind = .catchClause ∧ handler.clause.child? .body = some handler.body ∧
      handler.parameter = script.boundName handler.clause := by
  rw [handlers, Node.walk_eq, List.mem_filterMap] at member
  obtain ⟨clause, held, found⟩ := member
  have parts := found
  simp only [handler?, Option.bind_eq_bind, Option.bind_eq_some_iff, Option.guard_eq_some', Option.pure_def,
    Option.some.injEq] at parts
  obtain ⟨_, kind, body, isBody, rfl⟩ := parts
  exact ⟨held, found, kind, isBody, rfl⟩

theorem handler_body (script : Script) (handler : Handler) (member : handler ∈ script.handlers) :
    handler.body ∈ handler.clause.children ∧ handler.body ∈ script.root.preorder := by
  obtain ⟨held, _, _, isBody, _⟩ := script.handler_inversion handler member
  have direct := (Node.child_of_role _ _ _ isBody).1
  exact ⟨direct, Node.child_mem _ _ _ held direct⟩

end Script

/-- A candidate among those that a handler of the script finds. -/
structure Owns (script : Script) (names : List String) (handler : Handler) (candidate : Candidate) : Prop where
  handler_mem : handler ∈ script.handlers
  candidate_mem : candidate ∈ script.candidates names handler

namespace Owns
open Node

variable {script : Script} {names : List String} {handler other : Handler} {candidate rival : Candidate}

theorem reaches (owns : Owns script names handler candidate) : handler.body.Reaches candidate.statement :=
  ((script.mem_candidates_iff names handler candidate).mp owns.candidate_mem).1

theorem throws (owns : Owns script names handler candidate) : candidate.statement.kind = .throwStatement :=
  ((script.mem_candidates_iff names handler candidate).mp owns.candidate_mem).2.1

theorem made (owns : Owns script names handler candidate) :
    script.candidate? names candidate.statement = some candidate :=
  ((script.mem_candidates_iff names handler candidate).mp owns.candidate_mem).2.2

theorem clause_mem (owns : Owns script names handler candidate) : handler.clause ∈ script.root.preorder :=
  (script.handler_inversion handler owns.handler_mem).1

theorem clause_kind (owns : Owns script names handler candidate) : handler.clause.kind = .catchClause :=
  (script.handler_inversion handler owns.handler_mem).2.2.1

theorem body_child (owns : Owns script names handler candidate) : handler.body ∈ handler.clause.children :=
  (script.handler_body handler owns.handler_mem).1

theorem body_mem (owns : Owns script names handler candidate) : handler.body ∈ script.root.preorder :=
  (script.handler_body handler owns.handler_mem).2

theorem body_kind (owns : Owns script names handler candidate) (separate : script.root.Separate) :
    handler.body.kind ≠ .catchClause :=
  separate handler.clause owns.clause_mem owns.clause_kind handler.body
    (script.handler_inversion handler owns.handler_mem).2.2.2.1

theorem below_body (owns : Owns script names handler candidate) :
    candidate.statement ∈ handler.body.descendants := by
  obtain ⟨between, path, _⟩ := owns.reaches
  exact descent_below _ _ between path

theorem statement_mem (owns : Owns script names handler candidate) : candidate.statement ∈ script.root.preorder :=
  below_mem _ handler.body _ owns.body_mem owns.below_body

theorem between_kind (owns : Owns script names handler candidate) (numbered : script.root.Numbered) (middle : Node)
    (below : middle ∈ handler.body.descendants) (above : candidate.statement ∈ middle.descendants) :
    middle.kind ≠ .function ∧ middle.kind ≠ .catchClause ∧ middle.kind ≠ .throwStatement := by
  obtain ⟨between, path, clear⟩ := owns.reaches
  have bodyNumbered := numbered_part script.root handler.body numbered owns.body_mem
  exact clear middle (mem_between handler.body candidate.statement middle between bodyNumbered path below above)

theorem parent_kind (owns : Owns script names handler candidate) (numbered : script.root.Numbered)
    (separate : script.root.Separate) (parent : Node) (member : parent ∈ script.root.preorder)
    (direct : candidate.statement ∈ parent.children) : parent.kind ≠ .catchClause := by
  obtain ⟨between, path, clear⟩ := owns.reaches
  obtain ⟨above, held, aboveDirect⟩ := descent_parent _ _ between path
  have aboveMem : above ∈ script.root.preorder := by
    rcases List.mem_cons.mp held with rfl | later
    · exact owns.body_mem
    · exact below_mem _ handler.body _ owns.body_mem (descent_between _ _ above between path later).1
  have same := parent_unique script.root parent above candidate.statement numbered member aboveMem direct aboveDirect
  subst same
  rcases List.mem_cons.mp held with rfl | later
  · exact owns.body_kind separate
  · exact (clear parent later).2.1

theorem same_body (owns : Owns script names handler candidate) (rivals : Owns script names other rival)
    (numbered : script.root.Numbered) (separate : script.root.Separate)
    (same : candidate.statement = rival.statement) (inside : other.body ∈ handler.body.preorder) :
    other.body = handler.body := by
  rcases (mem_preorder_iff handler.body other.body).mp inside with equal | below
  · exact equal
  · -- The inner clause would stand between the outer body and the throw, or be that body.
    have clauseInside := parent_inside script.root handler.body other.clause other.body numbered owns.body_mem
      rivals.clause_mem rivals.body_child below
    rcases (mem_preorder_iff handler.body other.clause).mp clauseInside with equal | clauseBelow
    · exact absurd (equal ▸ rivals.clause_kind) (owns.body_kind separate)
    · have above : candidate.statement ∈ other.clause.descendants := same ▸ descendants_trans other.clause other.body
        rival.statement (descendant_mem_preorder _ _ (child_mem_descendants _ _ rivals.body_child)) rivals.below_body
      exact absurd rivals.clause_kind (owns.between_kind numbered other.clause clauseBelow above).2.1

theorem handler_unique (owns : Owns script names handler candidate) (rivals : Owns script names other rival)
    (numbered : script.root.Numbered) (separate : script.root.Separate)
    (same : candidate.statement = rival.statement) : handler = other := by
  have sameBody : handler.body = other.body := by
    have inOther : candidate.statement ∈ other.body.preorder :=
      same ▸ descendant_mem_preorder _ _ rivals.below_body
    rcases preorder_nested script.root handler.body other.body candidate.statement numbered owns.body_mem
      rivals.body_mem (descendant_mem_preorder _ _ owns.below_body) inOther with held | held
    · exact rivals.same_body owns numbered separate same.symm held
    · exact (owns.same_body rivals numbered separate same held).symm
  have sameClause : handler.clause = other.clause :=
    parent_unique script.root handler.clause other.clause handler.body numbered owns.clause_mem rivals.clause_mem
      owns.body_child (sameBody ▸ rivals.body_child)
  have found := (script.handler_inversion handler owns.handler_mem).2.1
  have otherFound := (script.handler_inversion other rivals.handler_mem).2.1
  rw [sameClause, otherFound] at found
  exact (Option.some.inj found).symm

end Owns

namespace Script

theorem harvest_all_sublist (script : Script) (names : List String) (nodes : List Node)
    (each : ∀ node ∈ nodes, ((node.harvest (script.visit names)).map (·.statement)).Sublist node.preorder) :
    ((Node.harvestAll (script.visit names) nodes).map (·.statement)).Sublist (Node.preorderAll nodes) := by
  induction nodes with
  | nil => simp [Node.harvestAll]
  | cons node rest ih =>
      rw [Node.harvestAll, Node.preorderAll, List.map_append]
      exact (each node List.mem_cons_self).append (ih fun other held => each other (List.mem_cons_of_mem _ held))

theorem harvest_sublist (script : Script) (names : List String) (node : Node) :
    ((node.harvest (script.visit names)).map (·.statement)).Sublist node.preorder := by
  induction node using Node.tree_induction with
  | step node ih =>
      rw [Node.harvest_eq, Node.preorder_eq]
      by_cases boundary : node.kind = .function ∨ node.kind = .catchClause
      · simp [visit_boundary script names node boundary]
      · by_cases kind : node.kind = .throwStatement
        · rw [visit_throw script names node kind, Option.getD_some]
          cases made : script.candidate? names node with
          | none => simp
          | some candidate =>
              have same := (candidate_inversion script names node candidate made).1
              simp [same]
        · rw [visit_other script names node (by simp_all), Option.getD_none]
          exact (harvest_all_sublist script names node.children ih).cons _

theorem statements_nodup (script : Script) (names : List String) (handler : Handler) (numbered : script.root.Numbered)
    (member : handler ∈ script.handlers) :
    ((script.candidates names handler).map (·.statement.index)).Nodup := by
  have bodyMem := (script.handler_body handler member).2
  have parts : ((script.candidates names handler).map (·.statement)).Sublist handler.body.preorder := by
    rw [candidates, Node.gather_eq, Node.preorder_eq]
    exact (harvest_all_sublist script names _ fun node _ => harvest_sublist script names node).cons _
  have indices := (parts.trans (Node.preorder_sublist _ _ bodyMem)).map Node.index
  rw [List.map_map] at indices
  exact numbered.sublist indices

theorem handlers_nodup (script : Script) (numbered : script.root.Numbered) : script.handlers.Nodup := by
  rw [handlers, Node.walk_eq]
  refine List.Nodup.filterMap ?_ (List.Nodup.of_map _ numbered)
  intro left right handler inLeft inRight
  exact (script.handler_clause left handler inLeft).symm.trans (script.handler_clause right handler inRight)

theorem statements_apart (script : Script) (names : List String) (numbered : script.root.Numbered)
    (separate : script.root.Separate) :
    script.handlers.Pairwise fun left right =>
      ∀ candidate ∈ script.candidates names left, ∀ rival ∈ script.candidates names right,
        candidate.statement.index ≠ rival.statement.index := by
  refine List.Pairwise.imp_of_mem ?_ (script.handlers_nodup numbered)
  intro left right leftMember rightMember different candidate held rival rivalHeld sameIndex
  have owns : Owns script names left candidate := ⟨leftMember, held⟩
  have rivals : Owns script names right rival := ⟨rightMember, rivalHeld⟩
  have same := Node.index_unique script.root _ _ numbered owns.statement_mem rivals.statement_mem sameIndex
  exact different (owns.handler_unique rivals numbered separate same)

theorem throw_ownership (script : Script) (names : List String) (numbered : script.root.Numbered)
    (separate : script.root.Separate) :
    (∀ handler ∈ script.handlers, ∀ statement : Node, statement.kind = .throwStatement →
      ((∃ candidate ∈ script.candidates names handler, candidate.statement = statement) ↔
        (∃ between, handler.body.Descent between statement ∧
          ∀ node ∈ between, node.kind ≠ .function ∧ node.kind ≠ .catchClause ∧ node.kind ≠ .throwStatement) ∧
        script.candidate? names statement ≠ none)) ∧
    (script.handlers.Pairwise fun left right =>
      ∀ candidate ∈ script.candidates names left, ∀ rival ∈ script.candidates names right,
        candidate.statement.index ≠ rival.statement.index) ∧
    ∀ handler ∈ script.handlers, ((script.candidates names handler).map (·.statement.index)).Nodup := by
  refine ⟨?_, script.statements_apart names numbered separate,
    fun handler member => script.statements_nodup names handler numbered member⟩
  intro handler _ statement throws
  constructor
  · rintro ⟨candidate, held, rfl⟩
    obtain ⟨reaches, _, made⟩ := (script.mem_candidates_iff names handler candidate).mp held
    exact ⟨reaches, by simp [made]⟩
  · rintro ⟨reaches, present⟩
    obtain ⟨candidate, made⟩ := Option.ne_none_iff_exists'.mp present
    have same := (script.candidate_inversion names statement candidate made).1
    subst same
    exact ⟨candidate, (script.mem_candidates_iff names handler candidate).mpr ⟨reaches, throws, made⟩, rfl⟩

end Script

def nestedThrows : Script := .parse .script
  "try\x7b\x7dcatch(e)\x7bthrow Error(1,\x7bf()\x7btry\x7b\x7dcatch(x)\x7bthrow Error(2)\x7d\x7d\x7d);throw Error(3,e)\x7d"

theorem nested_throws_owned :
    nestedThrows.root.Numbered ∧ nestedThrows.root.Separate ∧
      nestedThrows.handlers.Pairwise fun left right =>
        ∀ candidate ∈ nestedThrows.candidates ["Error"] left, ∀ rival ∈ nestedThrows.candidates ["Error"] right,
          candidate.statement.index ≠ rival.statement.index :=
  ⟨by decide +kernel, by decide +kernel,
    (nestedThrows.throw_ownership ["Error"] (by decide +kernel) (by decide +kernel)).2.1⟩

end Rethrow
