import Mathlib.Data.List.Pairwise
import Rethrow.Proofs.Ownership

/-!
Loops over a stack of trees. A loop takes the last tree off the stack and puts the children of a tree that it enters
there in reverse. It stops, and what it has found then is what recursion on the tree gives: all nodes of the tree, each
at its address and outer ones first, and from them the handlers; and the throws of a handler's body that lie in no inner
scope.
-/
set_option autoImplicit false

namespace Rethrow

namespace Node

/-- The node at an address: the numbers of the children on the way down to it. -/
def at? (node : Node) : List Nat → Option Node
  | [] => some node
  | number :: rest => node.children[number]?.bind fun child => child.at? rest

mutual
def addresses : Node → List (List Nat)
  | mk _ children => [] :: addressesFrom 0 children
def addressesFrom (number : Nat) : List Node → List (List Nat)
  | [] => []
  | node :: rest => (addresses node).map (number :: ·) ++ addressesFrom (number + 1) rest
end

/-- The nodes that are chosen, wherever they stand in the tree: each address once, and none after one inside it. -/
structure Lists (root : Node) (chosen : Node → Prop) (places : List (List Nat)) (nodes : List Node) : Prop where
  stand : places.map root.at? = nodes.map some
  exact : ∀ address, address ∈ places ↔ ∃ node, root.at? address = some node ∧ chosen node
  distinct : places.Nodup
  outer : places.Pairwise fun earlier later => ¬ later <+: earlier

theorem addresses_eq (node : Node) : node.addresses = [] :: addressesFrom 0 node.children := by
  cases node
  rfl

theorem mem_addresses_from_iff (number : Nat) (nodes : List Node) (address : List Nat) :
    address ∈ addressesFrom number nodes ↔
      ∃ index node rest, address = (number + index) :: rest ∧ nodes[index]? = some node ∧ rest ∈ node.addresses := by
  induction nodes generalizing number with
  | nil => simp [addressesFrom]
  | cons first others ih =>
      rw [addressesFrom, List.mem_append, List.mem_map, ih]
      constructor
      · rintro (⟨rest, member, rfl⟩ | ⟨index, node, rest, rfl, found, member⟩)
        · exact ⟨0, first, rest, rfl, rfl, member⟩
        · exact ⟨index + 1, node, rest, by rw [Nat.add_right_comm]; rfl, found, member⟩
      · rintro ⟨index, node, rest, rfl, found, member⟩
        cases index with
        | zero =>
            cases found
            exact .inl ⟨rest, member, rfl⟩
        | succ index => exact .inr ⟨index, node, rest, by rw [Nat.add_right_comm]; rfl, found, member⟩

theorem mem_addresses_iff (root : Node) (address : List Nat) :
    address ∈ root.addresses ↔ ∃ node, root.at? address = some node := by
  induction address generalizing root with
  | nil => simp [addresses_eq, at?]
  | cons number rest ih =>
      rw [addresses_eq, List.mem_cons, mem_addresses_from_iff]
      simp only [reduceCtorEq, false_or, Nat.zero_add, at?, Option.bind_eq_some_iff]
      constructor
      · rintro ⟨index, child, others, same, found, member⟩
        cases same
        obtain ⟨node, stands⟩ := (ih child).mp member
        exact ⟨node, child, found, stands⟩
      · rintro ⟨node, child, found, stands⟩
        exact ⟨number, child, rest, rfl, found, (ih child).mpr ⟨node, stands⟩⟩

theorem addresses_from_sorted (number : Nat) (nodes : List Node)
    (each : ∀ node ∈ nodes, node.addresses.Pairwise (· < ·)) : (addressesFrom number nodes).Pairwise (· < ·) := by
  induction nodes generalizing number with
  | nil => exact .nil
  | cons first others ih =>
      rw [addressesFrom, List.pairwise_append, List.pairwise_map]
      refine ⟨?_, ih (number + 1) fun node member => each node (List.mem_cons_of_mem _ member), ?_⟩
      · refine (each first List.mem_cons_self).imp fun before => ?_
        exact List.cons_lt_cons_iff.mpr (.inr ⟨rfl, before⟩)
      · intro earlier earlierMember later laterMember
        obtain ⟨rest, _, rfl⟩ := List.mem_map.mp earlierMember
        obtain ⟨index, _, _, rfl, _⟩ := (mem_addresses_from_iff _ _ _).mp laterMember
        exact List.cons_lt_cons_iff.mpr (.inl (by omega))

theorem addresses_sorted (root : Node) : root.addresses.Pairwise (· < ·) := by
  induction root using tree_induction with
  | step root ih =>
      rw [addresses_eq, List.pairwise_cons]
      refine ⟨fun address member => ?_, addresses_from_sorted 0 root.children ih⟩
      obtain ⟨_, _, _, rfl, _⟩ := (mem_addresses_from_iff _ _ _).mp member
      exact List.nil_lt_cons _ _

theorem addresses_from_stand (root : Node) (front back : List Node) (whole : root.children = front ++ back)
    (each : ∀ node ∈ back, node.addresses.map node.at? = node.preorder.map some) :
    (addressesFrom front.length back).map root.at? = (preorderAll back).map some := by
  induction back generalizing front with
  | nil => rfl
  | cons first others ih =>
      have here : (first.addresses.map (front.length :: ·)).map root.at? = first.preorder.map some := by
        rw [List.map_map, ← each first List.mem_cons_self]
        refine List.map_congr_left fun address _ => ?_
        simp [at?, whole]
      have later := ih (front ++ [first]) (by simp [whole]) fun node member => each node (List.mem_cons_of_mem _ member)
      rw [List.length_append, List.length_singleton] at later
      rw [addressesFrom, preorderAll, List.map_append, List.map_append, here, later]

theorem addresses_stand (root : Node) : root.addresses.map root.at? = root.preorder.map some := by
  induction root using tree_induction with
  | step root ih =>
      rw [addresses_eq, preorder_eq, List.map_cons, List.map_cons]
      congr 1
      exact addresses_from_stand root [] root.children rfl ih

theorem lists_of_sorted (root : Node) (chosen : Node → Prop) (places : List (List Nat)) (nodes : List Node)
    (stand : places.map root.at? = nodes.map some)
    (exact : ∀ address, address ∈ places ↔ ∃ node, root.at? address = some node ∧ chosen node)
    (sorted : places.Pairwise (· < ·)) : root.Lists chosen places nodes where
  stand := stand
  exact := exact
  distinct := sorted.imp fun {earlier later} (before : earlier < later) (same : earlier = later) =>
    List.lt_irrefl later (same ▸ before)
  outer := sorted.imp fun before inside => inside.le before

theorem filter_lists (root : Node) (chosen : Node → Prop) [DecidablePred chosen] :
    root.Lists chosen (root.addresses.filter fun address => (root.at? address).any (chosen ·))
      (root.walk.filter (chosen ·)) := by
  refine root.lists_of_sorted _ _ _ ?_ (fun address => ?_) (root.addresses_sorted.filter _)
  · have both := congrArg (List.filter fun found : Option Node => found.any (chosen ·)) root.addresses_stand
    rw [List.filter_map, List.filter_map] at both
    rw [walk_eq]
    exact both
  · rw [List.mem_filter, mem_addresses_iff]
    constructor
    · rintro ⟨⟨node, stands⟩, picked⟩
      exact ⟨node, stands, by simpa [stands] using picked⟩
    · rintro ⟨node, stands, picked⟩
      exact ⟨⟨node, stands⟩, by simpa [stands] using picked⟩

section Loop
variable {α : Type}

/-- What a loop makes of a node: what it finds there, and whether it goes on with the children. -/
structure Turn (α : Type) where
  found : List α
  enters : Bool

def Turn.ofAnswer : Option (List α) → Turn α
  | some answer => ⟨answer, false⟩
  | none => ⟨[], true⟩

/-- A loop that starts with a stack and with what was found before stops after so many rounds with a result. The last
tree is taken off first, so that children go on the stack in reverse. -/
inductive Drains (turn : Node → Turn α) : Nat → List Node → List α → List α → Prop where
  | stop (found : List α) : Drains turn 0 [] found found
  | enter (rounds : Nat) (stack : List Node) (node : Node) (found result : List α) (enters : (turn node).enters = true)
      (rest : Drains turn rounds (stack ++ node.children.reverse) (found ++ (turn node).found) result) :
      Drains turn (rounds + 1) (stack ++ [node]) found result
  | leave (rounds : Nat) (stack : List Node) (node : Node) (found result : List α)
      (enters : (turn node).enters = false) (rest : Drains turn rounds stack (found ++ (turn node).found) result) :
      Drains turn (rounds + 1) (stack ++ [node]) found result

-- The stack and the list of trees to do are each other's reverse.
theorem walk_all_drains (todo found : List Node) :
    Drains (fun node => ⟨[node], true⟩) (walkAll todo).length todo.reverse found (found ++ walkAll todo) := by
  fun_induction walkAll todo generalizing found with
  | case1 =>
      rw [List.append_nil]
      exact .stop found
  | case2 node rest ih =>
      rw [List.reverse_cons]
      refine .enter _ rest.reverse node found _ rfl ?_
      simpa using ih (found ++ [node])

theorem gather_drains (visit : Node → Option (List α)) (turn : Node → Turn α) (todo : List Node) (found : List α)
    (same : ∀ node, turn node = .ofAnswer (visit node)) :
    ∃ rounds, Drains turn rounds todo.reverse found (found ++ gather visit todo) := by
  fun_induction gather visit todo generalizing found with
  | case1 =>
      rw [List.append_nil]
      exact ⟨0, .stop found⟩
  | case2 node rest answer given ih =>
      have left : turn node = ⟨answer, false⟩ := by rw [same, given, Turn.ofAnswer]
      obtain ⟨rounds, drains⟩ := ih (found ++ answer)
      rw [List.append_assoc] at drains
      rw [List.reverse_cons]
      exact ⟨rounds + 1, .leave rounds rest.reverse node found _ (by rw [left]) (by rwa [left])⟩
  | case3 node rest given ih =>
      have entered : turn node = ⟨[], true⟩ := by rw [same, given, Turn.ofAnswer]
      obtain ⟨rounds, drains⟩ := ih found
      rw [List.reverse_append] at drains
      rw [List.reverse_cons]
      exact ⟨rounds + 1, .enter rounds rest.reverse node found _ (by rw [entered])
        (by rwa [entered, List.append_nil])⟩

end Loop
end Node

namespace Script

theorem handler_clause_eq (script : Script) (node : Node) :
    (script.handler? node).map (·.clause) =
      Option.guard (fun node => decide (node.kind = .catchClause ∧ node.child? .body ≠ none)) node := by
  by_cases kind : node.kind = .catchClause
  · cases body : node.child? .body <;> simp [handler?, kind, body, Option.guard]
  · simp [handler?, kind, Option.guard]

theorem handlers_clauses (script : Script) :
    script.handlers.map (·.clause) =
      script.root.walk.filter fun node => node.kind = .catchClause ∧ node.child? .body ≠ none := by
  rw [handlers, List.map_filterMap, ← List.filterMap_eq_filter]
  exact List.filterMap_congr fun node _ => script.handler_clause_eq node

mutual
/-- The candidates in a subtree, by recursion on the tree: nothing of a scope, and of a throw only the throw itself. -/
def owned (script : Script) (names : List String) : Node → List Candidate
  | .mk mark children =>
    if mark.kind = .function ∨ mark.kind = .catchClause then []
    else if mark.kind = .throwStatement then (script.candidate? names (.mk mark children)).toList
    else script.ownedAll names children
def ownedAll (script : Script) (names : List String) : List Node → List Candidate
  | [] => []
  | node :: rest => script.owned names node ++ script.ownedAll names rest
end

def turn (script : Script) (names : List String) (node : Node) : Node.Turn Candidate :=
  if node.kind.isBoundary then ⟨[], false⟩
  else if node.kind = .throwStatement then ⟨(script.candidate? names node).toList, false⟩
  else ⟨[], true⟩

theorem owned_all_eq (script : Script) (names : List String) (nodes : List Node) :
    script.ownedAll names nodes = nodes.flatMap (script.owned names) := by
  induction nodes with
  | nil => rfl
  | cons node rest ih => rw [ownedAll, ih, List.flatMap_cons]

theorem owned_eq (script : Script) (names : List String) (node : Node) :
    script.owned names node =
      if node.kind = .function ∨ node.kind = .catchClause then []
      else if node.kind = .throwStatement then (script.candidate? names node).toList
      else node.children.flatMap (script.owned names) := by
  cases node
  rw [owned, owned_all_eq]
  rfl

theorem harvest_owned (script : Script) (names : List String) (node : Node) :
    node.harvest (script.visit names) = script.owned names node := by
  induction node using Node.tree_induction with
  | step node ih =>
      rw [Node.harvest_eq, owned_eq]
      by_cases boundary : node.kind = .function ∨ node.kind = .catchClause
      · rw [visit_boundary script names node boundary, if_pos boundary, Option.getD_some]
      · by_cases throws : node.kind = .throwStatement
        · rw [visit_throw script names node throws, if_neg boundary, if_pos throws, Option.getD_some]
        · obtain ⟨function, clause⟩ := not_or.mp boundary
          rw [visit_other script names node ⟨function, clause, throws⟩, if_neg boundary, if_neg throws,
            Option.getD_none, Node.harvest_all_eq]
          exact List.flatMap_congr ih

theorem candidates_owned (script : Script) (names : List String) (handler : Handler) :
    script.candidates names handler = handler.body.children.flatMap (script.owned names) := by
  rw [candidates, Node.gather_eq, Node.harvest_all_eq]
  exact List.flatMap_congr fun node _ => script.harvest_owned names node

theorem turn_eq (script : Script) (names : List String) (node : Node) :
    script.turn names node = .ofAnswer (script.visit names node) := by
  unfold turn visit
  cases node.kind.isBoundary with
  | true => rfl
  | false =>
      by_cases throws : node.kind = .throwStatement
      · simp [throws, Node.Turn.ofAnswer]
      · simp [throws, Node.Turn.ofAnswer]

theorem candidates_drain (script : Script) (names : List String) (handler : Handler) :
    ∃ rounds, Node.Drains (script.turn names) rounds handler.body.children.reverse []
      (script.candidates names handler) :=
  Node.gather_drains (script.visit names) (script.turn names) handler.body.children [] (script.turn_eq names)

theorem traversals_recursive (script : Script) (names : List String) (handler : Handler) :
    script.root.walk = script.root.preorder ∧
    Node.Drains (fun node => ⟨[node], true⟩) script.root.walk.length [script.root] [] script.root.walk ∧
    (∃ places, script.root.Lists (fun _ => True) places script.root.walk) ∧
    (∃ places, script.root.Lists (fun node => node.kind = .catchClause ∧ node.child? .body ≠ none) places
      (script.handlers.map (·.clause))) ∧
    (∀ other ∈ script.handlers, other.clause.child? .body = some other.body ∧
      other.parameter = script.boundName other.clause) ∧
    (∃ rounds, Node.Drains (script.turn names) rounds handler.body.children.reverse []
      (script.candidates names handler)) ∧
    script.candidates names handler = handler.body.children.flatMap (script.owned names) := by
  refine ⟨script.root.walk_eq, Node.walk_all_drains [script.root] [], ?_, ?_, ?_, script.candidates_drain names handler,
    script.candidates_owned names handler⟩
  · have all := script.root.filter_lists fun _ => True
    simp only [decide_true, List.filter_true] at all
    exact ⟨_, all⟩
  · rw [handlers_clauses]
    exact ⟨_, script.root.filter_lists fun node => node.kind = .catchClause ∧ node.child? .body ≠ none⟩
  · intro other member
    obtain ⟨_, _, _, body, parameter⟩ := script.handler_inversion other member
    exact ⟨body, parameter⟩

end Script

theorem nested_throws_traversed :
    ∃ outer inner, nestedThrows.handlers = [outer, inner] ∧ outer.clause.child? .body = some outer.body ∧
      (nestedThrows.candidates ["Error"] outer).length = 2 ∧
      nestedThrows.candidates ["Error"] outer = outer.body.children.flatMap (nestedThrows.owned ["Error"]) ∧
      ∃ places, nestedThrows.root.Lists (fun node => node.kind = .catchClause ∧ node.child? .body ≠ none) places
        [outer.clause, inner.clause] := by
  have counts : nestedThrows.handlers.map (fun handler => (nestedThrows.candidates ["Error"] handler).length) =
      [2, 1] := by decide +kernel
  obtain ⟨outer, inner, both⟩ := List.length_eq_two.mp (by simpa using congrArg List.length counts)
  obtain ⟨_, _, _, clauses, bound, _, recursive⟩ := nestedThrows.traversals_recursive ["Error"] outer
  rw [both] at counts clauses bound
  exact ⟨outer, inner, both, (bound outer (by simp)).1, (List.cons.inj counts).1, recursive, clauses⟩

end Rethrow
