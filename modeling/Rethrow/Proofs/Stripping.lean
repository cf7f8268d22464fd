import Rethrow.Proofs.Ownership

/-!
Trees without comments and without parentheses around what is thrown. `stripped` takes any of them out and leaves every
other node where it was, with its mark. What is looked up below a node, or collected from a tree, is the same.
-/
set_option autoImplicit false

namespace Rethrow

theorem flat_map_filter {α β : Type} (keep : α → Bool) (collect : α → List β) (items : List α)
    (dropped : ∀ item ∈ items, keep item = false → collect item = []) :
    (items.filter keep).flatMap collect = items.flatMap collect := by
  induction items with
  | nil => rfl
  | cons item rest ih =>
      have later := ih fun other held => dropped other (List.mem_cons_of_mem _ held)
      rw [List.flatMap_cons, ← later]
      cases kept : keep item with
      | true => rw [List.filter_cons_of_pos kept, List.flatMap_cons]
      | false =>
          rw [List.filter_cons_of_neg (by simp [kept]), dropped item List.mem_cons_self kept, List.nil_append]

namespace Node

mutual
/-- An expression without the parentheses around it that go away, from the outside in. Parentheses that hold more than
one expression, or none, stay. -/
def peeled (away : Mark → Bool) : Node → Node
  | mk mark children =>
    if mark.kind = .parenthesized && away mark then (peeledOnly away children).getD (mk mark children)
    else mk mark children
def peeledOnly (away : Mark → Bool) : List Node → Option Node
  | [] => none
  | child :: rest =>
    if child.kind = .comment then peeledOnly away rest
    else if rest.all fun other => other.kind = .comment then some (peeled away child)
    else none
end

def peelFirst (away : Mark → Bool) : List Node → List Node
  | [] => []
  | node :: rest => if node.kind = .comment then node :: peelFirst away rest else node.peeled away :: rest

def goes (away : Mark → Bool) (node : Node) : Bool := node.kind = .comment && away node.mark

mutual
/-- The tree without the comments that go away and, in every throw, without the parentheses around the thrown expression
that do. -/
def stripped (away : Mark → Bool) : Node → Node
  | mk mark children =>
    if mark.kind = .throwStatement then mk mark (peelFirst away (strippedAll away children))
    else mk mark (strippedAll away children)
def strippedAll (away : Mark → Bool) : List Node → List Node
  | [] => []
  | node :: rest =>
    if node.goes away then strippedAll away rest else stripped away node :: strippedAll away rest
end

/-- Comments hold nothing and play no part, and the tree is not one. -/
structure PlainComments (root : Node) : Prop where
  leaf : ∀ node ∈ root.preorder, node.kind = .comment → node.children = []
  partless : ∀ node ∈ root.preorder, node.kind = .comment → node.role = none
  root_kind : root.kind ≠ .comment

instance (root : Node) : Decidable root.PlainComments :=
  decidable_of_iff
    ((∀ node ∈ root.preorder, node.kind = .comment → node.children = []) ∧
      (∀ node ∈ root.preorder, node.kind = .comment → node.role = none) ∧ root.kind ≠ .comment)
    ⟨fun ⟨a, b, c⟩ => ⟨a, b, c⟩, fun ⟨a, b, c⟩ => ⟨a, b, c⟩⟩

end Node

namespace Node

variable (away : Mark → Bool)

@[simp] theorem stripped_mark (node : Node) : (node.stripped away).mark = node.mark := by
  obtain ⟨mark, children⟩ := node
  rw [stripped]
  split <;> rfl

@[simp] theorem stripped_kind (node : Node) : (node.stripped away).kind = node.kind := by simp [kind]
@[simp] theorem stripped_role (node : Node) : (node.stripped away).role = node.role := by simp [role]
@[simp] theorem stripped_start (node : Node) : (node.stripped away).start = node.start := by simp [start, extent]
@[simp] theorem stripped_stop (node : Node) : (node.stripped away).stop = node.stop := by simp [stop, extent]

theorem goes_comment (node : Node) (gone : node.goes away = true) : node.kind = .comment := by
  simp only [goes, Bool.and_eq_true, decide_eq_true_eq] at gone
  exact gone.1

theorem stripped_all_eq (nodes : List Node) :
    strippedAll away nodes = (nodes.filter fun node => !node.goes away).map (stripped away) := by
  induction nodes with
  | nil => rfl
  | cons node rest ih =>
      rw [strippedAll, ih]
      by_cases gone : node.goes away = true
      · simp [gone]
      · simp [gone]

theorem stripped_children (node : Node) (kind : node.kind ≠ .throwStatement) :
    (node.stripped away).children = strippedAll away node.children := by
  obtain ⟨mark, children⟩ := node
  have other : ¬ mark.kind = .throwStatement := kind
  rw [stripped, if_neg other]
  rfl

theorem stripped_throw_children (node : Node) (kind : node.kind = .throwStatement) :
    (node.stripped away).children = peelFirst away (strippedAll away node.children) := by
  obtain ⟨mark, children⟩ := node
  have throws : mark.kind = .throwStatement := kind
  rw [stripped, if_pos throws]
  rfl

theorem stripped_all_significant (nodes : List Node) :
    (strippedAll away nodes).filter (fun node => node.kind ≠ .comment) =
      (nodes.filter fun node => node.kind ≠ .comment).map (stripped away) := by
  rw [stripped_all_eq, List.filter_map, List.filter_filter]
  congr 1
  refine List.filter_congr fun node _ => ?_
  by_cases comment : node.kind = .comment
  · simp [comment]
  · simp [comment, goes]

theorem stripped_significant (node : Node) (kind : node.kind ≠ .throwStatement) :
    (node.stripped away).significant = node.significant.map (stripped away) := by
  rw [significant, stripped_children away node kind, stripped_all_significant]
  rfl

theorem stripped_child (node : Node) (kind : node.kind ≠ .throwStatement) (role : Role)
    (partless : ∀ child ∈ node.children, child.kind = .comment → child.role = none) :
    (node.stripped away).child? role = (node.child? role).map (stripped away) := by
  rw [child?, stripped_children away node kind, stripped_all_eq, List.find?_map, List.find?_filter, child?,
    ← List.head?_filter, ← List.head?_filter]
  congr 2
  refine List.filter_congr fun child direct => ?_
  by_cases comment : child.kind = .comment
  · simp [partless child direct comment]
  · simp [goes, comment]

theorem peeled_only_eq (nodes : List Node) :
    peeledOnly away nodes =
      match nodes.filter fun node => node.kind ≠ .comment with
      | [inner] => some (inner.peeled away)
      | _ => none := by
  induction nodes with
  | nil => rfl
  | cons node rest ih =>
      rw [peeledOnly]
      by_cases comment : node.kind = .comment
      · rw [if_pos comment, List.filter_cons_of_neg (by simpa using comment), ih]
      · rw [if_neg comment, List.filter_cons_of_pos (by simpa using comment)]
        by_cases alone : rest.all fun other => other.kind = .comment
        · have none : rest.filter (fun other => other.kind ≠ .comment) = [] := by simpa using alone
          rw [if_pos alone, none]
        · cases others : rest.filter fun other => other.kind ≠ .comment with
          | nil => exact absurd (by simpa using others) alone
          | cons other more => rw [if_neg alone]

theorem peeled_cases (node : Node) :
    (node.peeled away = node ∧
      (node.kind = .parenthesized → away node.mark = true → node.significant.length ≠ 1)) ∨
    ∃ inner, node.kind = .parenthesized ∧ node.significant = [inner] ∧ node.peeled away = inner.peeled away := by
  obtain ⟨mark, children⟩ := node
  have whole : (mk mark children).peeled away = if mark.kind = .parenthesized && away mark then
      (peeledOnly away children).getD (mk mark children) else mk mark children := by rw [peeled]
  by_cases wrapped : mark.kind = .parenthesized ∧ away mark = true
  · rw [whole, if_pos (by simpa using wrapped), peeled_only_eq]
    cases inside : children.filter fun node => node.kind ≠ .comment with
    | nil => exact .inl ⟨rfl, fun _ _ => by rw [significant, Node.children, inside]; simp⟩
    | cons inner rest =>
        cases rest with
        | nil => exact .inr ⟨inner, wrapped.1, inside, rfl⟩
        | cons other more => exact .inl ⟨rfl, fun _ _ => by rw [significant, Node.children, inside]; simp⟩
  · rw [whole, if_neg (by simpa using wrapped)]
    exact .inl ⟨rfl, fun kind gone => absurd ⟨kind, gone⟩ wrapped⟩

theorem peeled_kind (node : Node) (kind : node.kind ≠ .comment) : (node.peeled away).kind ≠ .comment := by
  induction node using tree_induction with
  | step node ih =>
      rcases peeled_cases away node with ⟨same, _⟩ | ⟨inner, _, only, same⟩
      · rw [same]
        exact kind
      · have held : inner ∈ node.significant := by simp [only]
        obtain ⟨direct, significant⟩ := (mem_significant_iff node inner).mp held
        rw [same]
        exact ih inner direct significant

theorem peeled_mem (node : Node) : node.peeled away ∈ node.preorder := by
  induction node using tree_induction with
  | step node ih =>
      rcases peeled_cases away node with ⟨same, _⟩ | ⟨inner, _, only, same⟩
      · rw [same]
        exact self_mem_preorder node
      · have direct := significant_head_mem node inner (by simp [only])
        rw [same]
        exact preorder_of_child node inner _ direct (ih inner direct)

theorem peeled_settled (node : Node) (wrapped : (node.peeled away).kind = .parenthesized)
    (gone : away (node.peeled away).mark = true) : (node.peeled away).significant.length ≠ 1 := by
  induction node using tree_induction with
  | step node ih =>
      rcases peeled_cases away node with ⟨same, settled⟩ | ⟨inner, _, only, same⟩
      · rw [same] at wrapped gone ⊢
        exact settled wrapped gone
      · rw [same] at wrapped gone ⊢
        exact ih inner (significant_head_mem node inner (by simp [only])) wrapped gone

theorem peeled_unwrapped (node : Node) : (node.peeled away).unwrapped = node.unwrapped := by
  induction node using tree_induction with
  | step node ih =>
      rcases peeled_cases away node with ⟨same, _⟩ | ⟨inner, wrapped, only, same⟩
      · rw [same]
      · rw [same, ih inner (significant_head_mem node inner (by simp [only])), unwrapped_eq node, if_pos wrapped, only]
        rfl

theorem peel_first_head (nodes : List Node) :
    ((peelFirst away nodes).filter fun node => node.kind ≠ .comment).head? =
      (nodes.filter fun node => node.kind ≠ .comment).head?.map (peeled away) := by
  induction nodes with
  | nil => rfl
  | cons node rest ih =>
      rw [peelFirst]
      by_cases comment : node.kind = .comment
      · rw [if_pos comment, List.filter_cons_of_neg (by simpa using comment),
          List.filter_cons_of_neg (by simpa using comment), ih]
      · have still := peeled_kind away node comment
        rw [if_neg comment, List.filter_cons_of_pos (by simpa using still),
          List.filter_cons_of_pos (by simpa using comment)]
        rfl

theorem stripped_throw_head (node : Node) (kind : node.kind = .throwStatement) :
    (node.stripped away).significant.head? =
      node.significant.head?.map fun child => (child.stripped away).peeled away := by
  rw [significant, stripped_throw_children away node kind, peel_first_head, stripped_all_significant, List.head?_map,
    Option.map_map]
  rfl

theorem stripped_unwrapped (node : Node) :
    (node.stripped away).unwrapped = node.unwrapped.map (stripped away) := by
  induction node using tree_induction with
  | step node ih =>
      rw [unwrapped_eq, unwrapped_eq, stripped_kind]
      by_cases wrapped : node.kind = .parenthesized
      · rw [if_pos wrapped, if_pos wrapped, stripped_significant away node (by simp [wrapped]), List.head?_map]
        cases first : node.significant.head? with
        | none => rfl
        | some inner => exact ih inner (significant_head_mem node inner first)
      · rw [if_neg wrapped, if_neg wrapped]
        rfl

theorem mem_peel_first (nodes : List Node) (target : Node) (held : target ∈ peelFirst away nodes) :
    ∃ node ∈ nodes, target ∈ node.preorder := by
  induction nodes with
  | nil => cases held
  | cons node rest ih =>
      rw [peelFirst] at held
      split at held
      · rcases List.mem_cons.mp held with rfl | later
        · exact ⟨target, List.mem_cons_self, self_mem_preorder target⟩
        · obtain ⟨other, member, inside⟩ := ih later
          exact ⟨other, List.mem_cons_of_mem _ member, inside⟩
      · rcases List.mem_cons.mp held with rfl | later
        · exact ⟨node, List.mem_cons_self, peeled_mem away node⟩
        · exact ⟨target, List.mem_cons_of_mem _ later, self_mem_preorder target⟩

theorem mem_stripped_all (nodes : List Node) (target : Node) (held : target ∈ strippedAll away nodes) :
    ∃ node ∈ nodes, node.goes away = false ∧ target = node.stripped away := by
  rw [stripped_all_eq, List.mem_map] at held
  obtain ⟨node, kept, rfl⟩ := held
  obtain ⟨member, stays⟩ := List.mem_filter.mp kept
  exact ⟨node, member, by simpa using stays, rfl⟩

theorem mem_stripped_children (node target : Node) (held : target ∈ (node.stripped away).children) :
    ∃ child ∈ node.children, child.goes away = false ∧ target ∈ (child.stripped away).preorder := by
  by_cases throws : node.kind = .throwStatement
  · rw [stripped_throw_children away node throws] at held
    obtain ⟨other, member, inside⟩ := mem_peel_first away _ target held
    obtain ⟨child, direct, stays, rfl⟩ := mem_stripped_all away node.children other member
    exact ⟨child, direct, stays, inside⟩
  · rw [stripped_children away node throws] at held
    obtain ⟨child, direct, stays, rfl⟩ := mem_stripped_all away node.children target held
    exact ⟨child, direct, stays, self_mem_preorder _⟩

theorem mem_stripped_preorder (node target : Node) (held : target ∈ (node.stripped away).preorder) :
    ∃ inner ∈ node.preorder, target = inner.stripped away ∧ (inner = node ∨ inner.goes away = false) := by
  induction node using tree_induction with
  | step node ih =>
      rcases (mem_preorder_iff _ target).mp held with rfl | below
      · exact ⟨node, self_mem_preorder node, rfl, .inl rfl⟩
      · obtain ⟨other, member, inside⟩ := (mem_descendants_iff _ target).mp below
        obtain ⟨child, direct, stays, outer⟩ := mem_stripped_children away node other member
        obtain ⟨inner, deeper, same, kept⟩ := ih child direct (preorder_trans _ other target outer inside)
        refine ⟨inner, preorder_of_child node child inner direct deeper, same, .inr ?_⟩
        rcases kept with rfl | kept
        · exact stays
        · exact kept

theorem stripped_no_comment (root : Node) (plain : root.PlainComments) (node : Node)
    (held : node ∈ (root.stripped away).preorder) (comment : node.kind = .comment) : away node.mark = false := by
  obtain ⟨inner, _, rfl, kept⟩ := mem_stripped_preorder away root node held
  rw [stripped_kind] at comment
  rcases kept with rfl | kept
  · exact absurd comment plain.root_kind
  · simpa [goes, comment] using kept

theorem stripped_no_parentheses (root statement wrapper : Node) (held : statement ∈ (root.stripped away).preorder)
    (throws : statement.kind = .throwStatement) (first : statement.significant.head? = some wrapper)
    (wrapped : wrapper.kind = .parenthesized) (gone : away wrapper.mark = true) : wrapper.significant.length ≠ 1 := by
  obtain ⟨inner, _, rfl, _⟩ := mem_stripped_preorder away root statement held
  rw [stripped_throw_head away inner (by simpa using throws)] at first
  obtain ⟨child, _, rfl⟩ := Option.map_eq_some_iff.mp first
  exact peeled_settled away _ wrapped gone

/-- A way to collect from trees that finds nothing in a comment and looks through parentheses. -/
structure Gleans {α : Type} (glean : Node → List α) : Prop where
  comment : ∀ node : Node, node.kind = .comment → node.children = [] → glean node = []
  wrapper : ∀ node : Node, node.kind = .parenthesized → glean node = node.children.flatMap glean

namespace PlainComments

variable {away} {root : Node} {α : Type} {glean : Node → List α}

theorem glean_comment (plain : root.PlainComments) (gleans : Gleans glean) (node : Node) (member : node ∈ root.preorder)
    (comment : node.kind = .comment) : glean (node.stripped away) = [] := by
  refine gleans.comment _ (by simpa using comment) ?_
  rw [stripped_children away node (by simp [comment]), plain.leaf node member comment]
  rfl

theorem glean_stripped_all (plain : root.PlainComments) (gleans : Gleans glean) (nodes : List Node)
    (members : ∀ node ∈ nodes, node ∈ root.preorder) :
    (strippedAll away nodes).flatMap glean = nodes.flatMap fun node => glean (node.stripped away) := by
  rw [stripped_all_eq, List.flatMap_map, flat_map_filter]
  intro node held gone
  exact plain.glean_comment gleans node (members node held) (goes_comment away node (by simpa using gone))

-- The parentheses that are peeled off hold one expression, and comments in which there is nothing.
theorem glean_peeled (plain : root.PlainComments) (gleans : Gleans glean) (node : Node)
    (member : node ∈ root.preorder) : glean ((node.stripped away).peeled away) = glean (node.stripped away) := by
  induction node using tree_induction with
  | step node ih =>
      rcases peeled_cases away (node.stripped away) with ⟨same, _⟩ | ⟨inner, wrapped, only, same⟩
      · rw [same]
      · have other : node.kind ≠ .throwStatement := by
          rw [stripped_kind] at wrapped
          simp [wrapped]
        have below := fun child direct => child_mem root node child member direct
        rw [stripped_significant away node other, List.map_eq_singleton_iff] at only
        obtain ⟨child, alone, rfl⟩ := only
        have direct := significant_head_mem node child (by simp [alone])
        have held : node.children.flatMap (fun child => glean (child.stripped away)) = glean (child.stripped away) := by
          rw [← flat_map_filter (fun child => child.kind ≠ .comment)]
          · rw [show (node.children.filter fun child => child.kind ≠ .comment) = [child] from alone]
            simp
          · intro comment listed kind
            exact plain.glean_comment gleans comment (below comment listed) (by simpa using kind)
        rw [same, ih child direct (below child direct), gleans.wrapper _ wrapped, stripped_children away node other,
          plain.glean_stripped_all gleans _ below, held]

theorem glean_peel_first (nodes : List Node) (same : ∀ node ∈ nodes, glean (node.peeled away) = glean node) :
    (peelFirst away nodes).flatMap glean = nodes.flatMap glean := by
  induction nodes with
  | nil => rfl
  | cons node rest ih =>
      rw [peelFirst]
      split
      · rw [List.flatMap_cons, List.flatMap_cons, ih fun other held => same other (List.mem_cons_of_mem _ held)]
      · rw [List.flatMap_cons, List.flatMap_cons, same node List.mem_cons_self]

theorem glean_children (plain : root.PlainComments) (gleans : Gleans glean) (node : Node)
    (member : node ∈ root.preorder) :
    (node.stripped away).children.flatMap glean = node.children.flatMap fun child => glean (child.stripped away) := by
  have below := fun child direct => child_mem root node child member direct
  rw [← plain.glean_stripped_all gleans node.children below]
  by_cases throws : node.kind = .throwStatement
  · rw [stripped_throw_children away node throws]
    refine glean_peel_first _ fun other held => ?_
    obtain ⟨child, direct, _, rfl⟩ := mem_stripped_all away node.children other held
    exact plain.glean_peeled gleans child (below child direct)
  · rw [stripped_children away node throws]

end PlainComments
end Node
end Rethrow
