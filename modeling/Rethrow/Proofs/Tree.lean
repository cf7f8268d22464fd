import Mathlib.Data.List.Nodup
import Rethrow.Syntax

/-!
Where a node stands in its tree. In a numbered tree a node has one parent and one path from the root; two nodes that
hold a common third one hold each other. What a search finds is found child by child.
-/
set_option autoImplicit false

namespace Rethrow.Node

def descendants (node : Node) : List Node := preorderAll node.children

/-- A tree whose nodes can be told apart: no number is given twice. -/
def Numbered (root : Node) : Prop := (root.preorder.map index).Nodup

instance (root : Node) : Decidable root.Numbered := inferInstanceAs (Decidable (List.Nodup _))

/-- The path from a node down to a later one, with the nodes strictly between the two. -/
inductive Descent : Node → List Node → Node → Prop where
  | child (node target : Node) (member : target ∈ node.children) : Descent node [] target
  | step (node middle target : Node) (between : List Node) (member : middle ∈ node.children)
      (rest : Descent middle between target) : Descent node (middle :: between) target

theorem mem_preorder_iff (node target : Node) :
    target ∈ node.preorder ↔ target = node ∨ target ∈ node.descendants := by
  rw [preorder_eq, List.mem_cons, descendants]

theorem preorder_all_eq (nodes : List Node) : preorderAll nodes = nodes.flatMap preorder := by
  induction nodes with
  | nil => rfl
  | cons node rest ih => rw [preorderAll, ih, List.flatMap_cons]

theorem mem_preorder_all_iff (nodes : List Node) (target : Node) :
    target ∈ preorderAll nodes ↔ ∃ node ∈ nodes, target ∈ node.preorder := by
  rw [preorder_all_eq, List.mem_flatMap]

theorem mem_descendants_iff (node target : Node) :
    target ∈ node.descendants ↔ ∃ child ∈ node.children, target ∈ child.preorder :=
  mem_preorder_all_iff node.children target

theorem self_mem_preorder (node : Node) : node ∈ node.preorder := (mem_preorder_iff node node).mpr (.inl rfl)

theorem descendant_mem_preorder (node target : Node) (below : target ∈ node.descendants) :
    target ∈ node.preorder := (mem_preorder_iff node target).mpr (.inr below)

theorem child_mem_descendants (node child : Node) (member : child ∈ node.children) : child ∈ node.descendants :=
  (mem_descendants_iff node child).mpr ⟨child, member, self_mem_preorder child⟩

theorem preorder_of_child (node child target : Node) (direct : child ∈ node.children)
    (held : target ∈ child.preorder) : target ∈ node.preorder :=
  descendant_mem_preorder node target ((mem_descendants_iff node target).mpr ⟨child, direct, held⟩)

theorem size_le_size_all (nodes : List Node) (node : Node) (member : node ∈ nodes) : node.size ≤ sizeAll nodes := by
  induction nodes with
  | nil => simp at member
  | cons head rest ih =>
      rcases List.mem_cons.mp member with same | later
      · subst same
        exact Nat.le_add_right _ _
      · exact Nat.le_trans (ih later) (Nat.le_add_left _ _)

theorem child_size (node child : Node) (member : child ∈ node.children) : child.size < node.size := by
  have bound := size_le_size_all node.children child member
  have whole := size_eq node
  omega

-- Every later proof about all nodes of a tree goes through this one induction: from the children to their parent.
theorem tree_induction {motive : Node → Prop}
    (step : ∀ node, (∀ child ∈ node.children, motive child) → motive node) (node : Node) : motive node := by
  induction size : node.size using Nat.strongRecOn generalizing node with
  | _ bound ih =>
      subst size
      exact step node fun child member => ih child.size (child_size node child member) child rfl

theorem preorder_trans (node middle target : Node) (outer : middle ∈ node.preorder)
    (inner : target ∈ middle.preorder) : target ∈ node.preorder := by
  induction node using tree_induction with
  | step node ih =>
      rcases (mem_preorder_iff node middle).mp outer with same | below
      · exact same ▸ inner
      · obtain ⟨child, member, held⟩ := (mem_descendants_iff node middle).mp below
        exact preorder_of_child node child target member (ih child member held)

theorem below_mem (root node target : Node) (member : node ∈ root.preorder) (below : target ∈ node.descendants) :
    target ∈ root.preorder := preorder_trans root node target member (descendant_mem_preorder node target below)

theorem child_mem (root node child : Node) (member : node ∈ root.preorder) (direct : child ∈ node.children) :
    child ∈ root.preorder := below_mem root node child member (child_mem_descendants node child direct)

theorem descendants_trans (node middle target : Node) (outer : middle ∈ node.preorder)
    (inner : target ∈ middle.descendants) : target ∈ node.descendants := by
  rcases (mem_preorder_iff node middle).mp outer with same | below
  · exact same ▸ inner
  · obtain ⟨child, member, held⟩ := (mem_descendants_iff node middle).mp below
    refine (mem_descendants_iff node target).mpr ⟨child, member, ?_⟩
    exact preorder_trans child middle target held (descendant_mem_preorder middle target inner)

theorem preorder_descendants_trans (node middle target : Node) (outer : middle ∈ node.descendants)
    (inner : target ∈ middle.preorder) : target ∈ node.descendants := by
  obtain ⟨child, member, held⟩ := (mem_descendants_iff node middle).mp outer
  exact (mem_descendants_iff node target).mpr ⟨child, member, preorder_trans child middle target held inner⟩

theorem descendant_size (node target : Node) (below : target ∈ node.descendants) : target.size < node.size := by
  induction node using tree_induction with
  | step node ih =>
      obtain ⟨child, member, held⟩ := (mem_descendants_iff node target).mp below
      have smaller := child_size node child member
      rcases (mem_preorder_iff child target).mp held with same | deeper
      · exact same ▸ smaller
      · exact Nat.lt_trans (ih child member deeper) smaller

theorem not_mem_own_descendants (node : Node) : node ∉ node.descendants := fun below =>
  Nat.lt_irrefl _ (descendant_size node node below)

theorem descendants_asymm (node target : Node) (below : target ∈ node.descendants) : node ∉ target.preorder := by
  intro above
  exact not_mem_own_descendants node (preorder_descendants_trans node target node below above)

theorem exists_parent (node target : Node) (below : target ∈ node.descendants) :
    ∃ parent ∈ node.preorder, target ∈ parent.children := by
  induction node using tree_induction with
  | step node ih =>
      obtain ⟨child, member, held⟩ := (mem_descendants_iff node target).mp below
      rcases (mem_preorder_iff child target).mp held with same | deeper
      · exact ⟨node, self_mem_preorder node, same ▸ member⟩
      · obtain ⟨parent, inside, direct⟩ := ih child member deeper
        exact ⟨parent, preorder_trans node child parent
          (descendant_mem_preorder node child (child_mem_descendants node child member)) inside, direct⟩

theorem preorder_sublist_preorder_all (nodes : List Node) (node : Node) (member : node ∈ nodes) :
    node.preorder.Sublist (preorderAll nodes) := by
  induction nodes with
  | nil => simp at member
  | cons head rest ih =>
      rcases List.mem_cons.mp member with same | later
      · subst same
        exact List.sublist_append_left _ _
      · exact (ih later).trans (List.sublist_append_right _ _)

theorem preorder_sublist (root node : Node) (member : node ∈ root.preorder) :
    node.preorder.Sublist root.preorder := by
  induction root using tree_induction with
  | step root ih =>
      rcases (mem_preorder_iff root node).mp member with same | below
      · exact same ▸ List.Sublist.refl _
      · obtain ⟨child, direct, held⟩ := (mem_descendants_iff root node).mp below
        rw [preorder_eq root]
        exact ((ih child direct held).trans (preorder_sublist_preorder_all _ _ direct)).cons _

theorem numbered_part (root node : Node) (numbered : root.Numbered) (member : node ∈ root.preorder) :
    node.Numbered := numbered.sublist ((preorder_sublist root node member).map index)

theorem index_unique (root left right : Node) (numbered : root.Numbered) (leftMember : left ∈ root.preorder)
    (rightMember : right ∈ root.preorder) (same : left.index = right.index) : left = right :=
  List.inj_on_of_nodup_map numbered leftMember rightMember same

theorem sibling_unique (nodes : List Node) (numbered : ((preorderAll nodes).map index).Nodup)
    (left right target : Node) (leftMember : left ∈ nodes) (rightMember : right ∈ nodes)
    (inLeft : target ∈ left.preorder) (inRight : target ∈ right.preorder) : left = right := by
  induction nodes with
  | nil => simp at leftMember
  | cons head rest ih =>
      rw [preorderAll, List.map_append, List.nodup_append] at numbered
      obtain ⟨_, restNumbered, apart⟩ := numbered
      -- A node of the head's tree has a number that no node of the other trees has.
      have disjoint : ∀ other ∈ rest, target ∈ head.preorder → target ∉ other.preorder := by
        intro other member inHead inOther
        exact apart target.index (List.mem_map_of_mem inHead) target.index
          (List.mem_map_of_mem ((mem_preorder_all_iff rest target).mpr ⟨other, member, inOther⟩)) rfl
      rcases List.mem_cons.mp leftMember with rfl | leftLater <;>
        rcases List.mem_cons.mp rightMember with rfl | rightLater
      · rfl
      · exact absurd inRight (disjoint right rightLater inLeft)
      · exact absurd inLeft (disjoint left leftLater inRight)
      · exact ih restNumbered leftLater rightLater

theorem child_unique (node left right target : Node) (numbered : node.Numbered) (leftMember : left ∈ node.children)
    (rightMember : right ∈ node.children) (inLeft : target ∈ left.preorder) (inRight : target ∈ right.preorder) :
    left = right := by
  have below : ((preorderAll node.children).map index).Nodup := by
    have whole : (node.preorder.map index).Nodup := numbered
    rw [preorder_eq, List.map_cons] at whole
    exact (List.nodup_cons.mp whole).2
  exact sibling_unique node.children below left right target leftMember rightMember inLeft inRight

theorem sublist_preorder_all (nodes : List Node) : nodes.Sublist (preorderAll nodes) := by
  induction nodes with
  | nil => exact List.Sublist.refl _
  | cons node rest ih =>
      rw [preorderAll, preorder_eq, List.cons_append]
      exact (ih.trans (List.sublist_append_right _ _)).cons_cons node

theorem children_nodup (node : Node) (numbered : node.Numbered) : node.children.Nodup := by
  have whole : (node.preorder.map index).Nodup := numbered
  rw [preorder_eq] at whole
  exact (List.nodup_cons.mp whole.of_map).2.sublist (sublist_preorder_all node.children)

theorem preorder_nested (root left right target : Node) (numbered : root.Numbered) (leftMember : left ∈ root.preorder)
    (rightMember : right ∈ root.preorder) (inLeft : target ∈ left.preorder) (inRight : target ∈ right.preorder) :
    left ∈ right.preorder ∨ right ∈ left.preorder := by
  induction root using tree_induction with
  | step root ih =>
      rcases (mem_preorder_iff root left).mp leftMember with rfl | leftBelow
      · exact .inr rightMember
      · rcases (mem_preorder_iff root right).mp rightMember with rfl | rightBelow
        · exact .inl leftMember
        · obtain ⟨child, direct, held⟩ := (mem_descendants_iff root left).mp leftBelow
          obtain ⟨other, otherDirect, otherHeld⟩ := (mem_descendants_iff root right).mp rightBelow
          have same : child = other := child_unique root child other target numbered direct otherDirect
            (preorder_trans child left target held inLeft) (preorder_trans other right target otherHeld inRight)
          subst same
          have inside := descendant_mem_preorder root child (child_mem_descendants root child direct)
          exact ih child direct (numbered_part root child numbered inside) held otherHeld

theorem parent_unique (root left right child : Node) (numbered : root.Numbered) (leftMember : left ∈ root.preorder)
    (rightMember : right ∈ root.preorder) (inLeft : child ∈ left.children) (inRight : child ∈ right.children) :
    left = right := by
  -- The parent inside the other one's subtree would lie in the child itself.
  have nested : ∀ outer inner : Node, outer ∈ root.preorder → child ∈ outer.children → child ∈ inner.children →
      inner ∈ outer.preorder → inner = outer := by
    intro outer inner outerMember inOuter inInner held
    rcases (mem_preorder_iff outer inner).mp held with same | below
    · exact same
    · obtain ⟨branch, direct, deeper⟩ := (mem_descendants_iff outer inner).mp below
      have through : child ∈ branch.preorder := preorder_trans branch inner child deeper
        (descendant_mem_preorder inner child (child_mem_descendants inner child inInner))
      have part := numbered_part root outer numbered outerMember
      have same : branch = child :=
        child_unique outer branch child child part direct inOuter through (self_mem_preorder child)
      subst same
      exact absurd deeper (descendants_asymm inner branch (child_mem_descendants inner branch inInner))
  have leftHolds := descendant_mem_preorder left child (child_mem_descendants left child inLeft)
  have rightHolds := descendant_mem_preorder right child (child_mem_descendants right child inRight)
  rcases preorder_nested root left right child numbered leftMember rightMember leftHolds rightHolds with held | held
  · exact nested right left rightMember inRight inLeft held
  · exact (nested left right leftMember inLeft inRight held).symm

theorem parent_inside (root node parent child : Node) (numbered : root.Numbered) (nodeMember : node ∈ root.preorder)
    (parentMember : parent ∈ root.preorder) (direct : child ∈ parent.children) (below : child ∈ node.descendants) :
    parent ∈ node.preorder := by
  obtain ⟨other, held, otherDirect⟩ := exists_parent node child below
  have same := parent_unique root parent other child numbered parentMember
    (preorder_trans root node other nodeMember held) direct otherDirect
  exact same ▸ held

theorem descent_below (node target : Node) (between : List Node) (path : node.Descent between target) :
    target ∈ node.descendants := by
  induction path with
  | child node target member => exact child_mem_descendants node target member
  | step node middle target between member rest ih =>
      exact preorder_descendants_trans node middle target (child_mem_descendants node middle member)
        (descendant_mem_preorder middle target ih)

theorem exists_descent (node target : Node) (below : target ∈ node.descendants) :
    ∃ between, node.Descent between target := by
  induction node using tree_induction with
  | step node ih =>
      obtain ⟨child, member, held⟩ := (mem_descendants_iff node target).mp below
      rcases (mem_preorder_iff child target).mp held with same | deeper
      · exact ⟨[], .child node target (same ▸ member)⟩
      · obtain ⟨between, path⟩ := ih child member deeper
        exact ⟨child :: between, .step node child target between member path⟩

theorem descent_between (node target middle : Node) (between : List Node) (path : node.Descent between target)
    (member : middle ∈ between) : middle ∈ node.descendants ∧ target ∈ middle.descendants := by
  induction path with
  | child node target direct => simp at member
  | step node first target between direct rest ih =>
      rcases List.mem_cons.mp member with same | later
      · subst same
        exact ⟨child_mem_descendants node middle direct, descent_below middle target between rest⟩
      · obtain ⟨below, reaches⟩ := ih later
        exact ⟨preorder_descendants_trans node first middle (child_mem_descendants node first direct)
          (descendant_mem_preorder first middle below), reaches⟩

theorem descent_parent (node target : Node) (between : List Node) (path : node.Descent between target) :
    ∃ parent ∈ node :: between, target ∈ parent.children := by
  induction path with
  | child node target member => exact ⟨node, by simp, member⟩
  | step node middle target between member rest ih =>
      obtain ⟨parent, held, direct⟩ := ih
      exact ⟨parent, List.mem_cons_of_mem _ held, direct⟩

def Unforked (node target : Node) : Prop :=
  ∀ parent ∈ node.preorder, ∀ left ∈ parent.children, ∀ right ∈ parent.children,
    target ∈ left.preorder → target ∈ right.preorder → left = right

theorem unforked_of_numbered (node target : Node) (numbered : node.Numbered) : node.Unforked target := by
  intro parent member left leftMember right rightMember inLeft inRight
  exact child_unique parent left right target (numbered_part node parent numbered member) leftMember rightMember inLeft
    inRight

theorem unforked_child (node child target : Node) (unforked : node.Unforked target) (direct : child ∈ node.children) :
    child.Unforked target := fun parent member => unforked parent (preorder_of_child node child parent direct member)

theorem mem_between_of_unforked (node target middle : Node) (between : List Node) (unforked : node.Unforked target)
    (path : node.Descent between target) (below : middle ∈ node.descendants) (above : target ∈ middle.descendants) :
    middle ∈ between := by
  induction path with
  | child node target member =>
      obtain ⟨child, direct, held⟩ := (mem_descendants_iff node middle).mp below
      have same : child = target := unforked node (self_mem_preorder node) child direct target member
        (descendant_mem_preorder child target (descendants_trans child middle target held above))
        (self_mem_preorder target)
      subst same
      exact absurd held (descendants_asymm middle child above)
  | step node first target between member rest ih =>
      obtain ⟨child, direct, held⟩ := (mem_descendants_iff node middle).mp below
      have reaches := descent_below first target between rest
      have same : child = first := unforked node (self_mem_preorder node) child direct first member
        (descendant_mem_preorder child target (descendants_trans child middle target held above))
        (descendant_mem_preorder first target reaches)
      subst same
      rcases (mem_preorder_iff child middle).mp held with here | deeper
      · exact here ▸ List.mem_cons_self
      · exact List.mem_cons_of_mem _ (ih (unforked_child node child target unforked direct) deeper above)

theorem mem_between (node target middle : Node) (between : List Node) (numbered : node.Numbered)
    (path : node.Descent between target) (below : middle ∈ node.descendants) (above : target ∈ middle.descendants) :
    middle ∈ between :=
  mem_between_of_unforked node target middle between (unforked_of_numbered node target numbered) path below above

section Search
variable {α : Type}

theorem harvest_eq (visit : Node → Option (List α)) (node : Node) :
    node.harvest visit = (visit node).getD (harvestAll visit node.children) := by
  obtain ⟨mark, children⟩ := node
  rw [harvest]
  cases visit (.mk mark children) <;> rfl

theorem harvest_all_eq (visit : Node → Option (List α)) (nodes : List Node) :
    harvestAll visit nodes = nodes.flatMap fun node => node.harvest visit := by
  induction nodes with
  | nil => rfl
  | cons node rest ih => rw [harvestAll, ih, List.flatMap_cons]

end Search

end Rethrow.Node
