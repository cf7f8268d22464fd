import Rethrow.Proofs.Layout

/-!
The throws that the search of a handler's body comes to, whatever they construct. The candidates are those of them
that construct a recognised error: recognition does not steer the search. Where ranges nest as the nodes do, the
throws stand one after the other.
-/
set_option autoImplicit false

namespace Rethrow

def Node.scout (node : Node) : Option (List Node) :=
  if node.kind.isBoundary then some []
  else if node.kind = .throwStatement then some [node]
  else none

/-- The throws that a handler's search comes to, in source order. -/
def Handler.throws (handler : Handler) : List Node := Node.gather Node.scout handler.body.children

namespace Node

theorem scout_cases (node : Node) : node.scout = some [] ∨ node.scout = some [node] ∨ node.scout = none := by
  by_cases boundary : node.kind.isBoundary = true
  · exact .inl (by rw [scout, if_pos boundary])
  · by_cases throws : node.kind = .throwStatement
    · exact .inr (.inl (by rw [scout, if_neg boundary, if_pos throws]))
    · exact .inr (.inr (by rw [scout, if_neg boundary, if_neg throws]))

theorem harvest_mem (node statement : Node) (found : statement ∈ node.harvest scout) : statement ∈ node.preorder := by
  induction node using tree_induction with
  | step node ih =>
      rw [harvest_eq] at found
      rcases scout_cases node with stops | takes | passes
      · simp [stops] at found
      · rw [takes] at found
        rw [List.mem_singleton.mp found]
        exact self_mem_preorder node
      · rw [passes, Option.getD_none, harvest_all_eq, List.mem_flatMap] at found
        obtain ⟨child, direct, deeper⟩ := found
        exact preorder_of_child node child statement direct (ih child direct deeper)

theorem harvest_filter_map {α β : Type} (visit : Node → Option (List α)) (other : Node → Option (List β))
    (choose : α → Option β) (agree : ∀ node, other node = (visit node).map (·.filterMap choose)) (node : Node) :
    node.harvest other = (node.harvest visit).filterMap choose := by
  induction node using tree_induction with
  | step node ih =>
      rw [harvest_eq, harvest_eq, agree node]
      cases visit node with
      | some found => rfl
      | none =>
          simp only [Option.map_none, Option.getD_none, harvest_all_eq, List.filterMap_flatMap]
          exact List.flatMap_congr ih

end Node

namespace Script

theorem visit_eq_scout (script : Script) (names : List String) (node : Node) :
    script.visit names node = node.scout.map (·.filterMap (script.candidate? names)) := by
  rw [visit, Node.scout]
  split
  · rfl
  · split
    · cases found : script.candidate? names node <;> simp [found]
    · rfl

theorem candidates_eq (script : Script) (names : List String) (handler : Handler) :
    script.candidates names handler = handler.throws.filterMap (script.candidate? names) := by
  rw [candidates, Handler.throws, Node.gather_eq, Node.gather_eq, Node.harvest_all_eq, Node.harvest_all_eq,
    List.filterMap_flatMap]
  refine List.flatMap_congr fun node _ => ?_
  exact Node.harvest_filter_map Node.scout _ _ (script.visit_eq_scout names) node

end Script

namespace Node.Spaced
open Node

variable {root : Node}

theorem harvest_all_apart (spaced : root.Spaced) (nodes : List Node) (members : ∀ node ∈ nodes, node ∈ root.preorder)
    (apart : nodes.Pairwise fun left right => left.stop ≤ right.start)
    (each : ∀ node ∈ nodes, (node.harvest scout).Pairwise fun left right => left.stop ≤ right.start) :
    (harvestAll scout nodes).Pairwise fun left right => left.stop ≤ right.start := by
  rw [harvest_all_eq, List.pairwise_flatMap]
  refine ⟨each, apart.imp_of_mem ?_⟩
  intro left right leftMember rightMember before statement found other otherFound
  have inLeft := spaced.range_inside left statement (members left leftMember) (harvest_mem left statement found)
  have inRight := spaced.range_inside right other (members right rightMember) (harvest_mem right other otherFound)
  omega

theorem harvest_apart (spaced : root.Spaced) (node : Node) (member : node ∈ root.preorder) :
    (node.harvest scout).Pairwise fun left right => left.stop ≤ right.start := by
  induction node using tree_induction with
  | step node ih =>
      rw [harvest_eq]
      rcases scout_cases node with stops | takes | passes
      · simp [stops]
      · simp [takes]
      · have below := fun child direct => child_mem root node child member direct
        rw [passes, Option.getD_none]
        exact spaced.harvest_all_apart node.children below (spaced.apart node member) fun child direct =>
          ih child direct (below child direct)

theorem throws_apart (spaced : root.Spaced) (handler : Handler) (member : handler.body ∈ root.preorder) :
    handler.throws.Pairwise fun left right => left.stop ≤ right.start := by
  have below := fun child direct => child_mem root handler.body child member direct
  rw [Handler.throws, gather_eq]
  exact spaced.harvest_all_apart handler.body.children below (spaced.apart handler.body member) fun child direct =>
    spaced.harvest_apart child (below child direct)

end Node.Spaced

end Rethrow
