import Rethrow.Proofs.Storage

/-!
Paths as names and as places. Paths from the root are ordered strictly by their names, so that a list in order is
settled by its members; a path that leads somewhere is resolved to the place it leads to, and names without a link on
their way are resolved to themselves. What is discovered leads to a file.
-/
set_option autoImplicit false

namespace Rethrow

theorem nodup_erase_dups {α : Type} [BEq α] [LawfulBEq α] (items : List α) : items.eraseDups.Nodup := by
  match items with
  | [] => simp
  | item :: rest =>
      rw [List.eraseDups_cons, List.nodup_cons, List.mem_eraseDups, List.mem_filter]
      exact ⟨by simp, nodup_erase_dups _⟩
termination_by items.length
decreasing_by
  have := List.length_filter_le (fun other => !other == item) rest
  simp only [List.length_cons]
  omega

namespace Path

theorem le_iff (a b : Path) : a.le b = true ↔ ¬ b.parts < a.parts := by
  rw [le, Bool.not_eq_true', decide_eq_false_iff_not]

theorem le_trans (a b c : Path) (first : a.le b = true) (second : b.le c = true) : a.le c = true := by
  rw [le_iff, List.not_lt] at *
  exact List.le_trans first second

theorem le_total (a b : Path) : (a.le b || b.le a) = true := by
  rw [Bool.or_eq_true, le_iff, le_iff, List.not_lt, List.not_lt]
  exact List.le_total _ _

theorem mem_in_order_iff (paths : List Path) (path : Path) : path ∈ inOrder paths ↔ path ∈ paths := by
  rw [inOrder, List.mem_mergeSort, List.mem_eraseDups]

theorem in_order_nodup (paths : List Path) : (inOrder paths).Nodup :=
  (List.mergeSort_perm _ _).nodup_iff.mpr (nodup_erase_dups _)

-- The order looks at names alone, so paths that start at different places could be two with the same names.
theorem in_order_increasing (paths : List Path) (rooted : ∀ path ∈ paths, path.anchor = .root) :
    (inOrder paths).Pairwise fun a b => a.parts < b.parts := by
  have sorted : (inOrder paths).Pairwise fun a b => a.le b = true := List.pairwise_mergeSort le_trans le_total _
  refine (sorted.and (in_order_nodup paths)).imp_of_mem fun {a b} first second ⟨before, different⟩ => ?_
  have anchors : a.anchor = b.anchor :=
    (rooted a ((mem_in_order_iff paths a).mp first)).trans (rooted b ((mem_in_order_iff paths b).mp second)).symm
  rw [le_iff, List.not_lt, List.le_iff_lt_or_eq] at before
  refine before.resolve_right fun same => different ?_
  cases a
  cases b
  cases anchors
  cases same
  rfl

theorem increasing_nodup (paths : List Path) (increasing : paths.Pairwise fun a b => a.parts < b.parts) :
    paths.Nodup := by
  refine increasing.imp fun {a b} before same => ?_
  cases same
  exact List.lt_irrefl _ before

theorem increasing_unique (left right : List Path) (leftIncreasing : left.Pairwise fun a b => a.parts < b.parts)
    (rightIncreasing : right.Pairwise fun a b => a.parts < b.parts) (same : ∀ path, path ∈ left ↔ path ∈ right) :
    left = right := by
  have perm := (List.perm_ext_iff_of_nodup (increasing_nodup left leftIncreasing)
    (increasing_nodup right rightIncreasing)).mpr same
  exact perm.eq_of_pairwise (fun a b _ _ before after => absurd after (List.lt_asymm before)) leftIncreasing
    rightIncreasing

end Path

theorem file_at_injective : Function.Injective fileAt := fun _ _ same => (Path.mk.inj same).2

theorem Session.resolve_found (session : Session) (path : Path) (place : Names)
    (found : session.store.tree.find? session.directory path = some place) :
    session.resolve path = .ok (fileAt place) := by
  have clean := Tree.find_clean session.directory path found
  rw [resolve, clean, if_neg Bool.false_ne_true, Tree.resolve]
  cases done : session.store.tree.find session.directory path with
  | error lost => simp [Tree.find?, done, Except.toOption] at found
  | ok goal =>
      rw [Tree.find?, done] at found
      cases found
      rfl

namespace Tree

variable {tree : Tree} {start names goal : Names}

theorem Leads.unlinked (leads : tree.Leads start names goal) (plain : ".." ∉ names)
    (free : ∀ above, above <+: start ++ names → tree.link? above = none) : goal = start ++ names := by
  induction leads with
  | arrive place present => rw [List.append_nil]
  | climb place rest goal inside onward ih => simp at plain
  | enter place rest goal name inside dots none onward ih =>
      rw [List.mem_cons, not_or] at plain
      have shape : place ++ name :: rest = place ++ [name] ++ rest := by simp
      rw [shape] at free ⊢
      exact ih plain.2 free
  | jump place rest goal name target inside dots found onward ih =>
      rw [free (place ++ [name]) ⟨rest, by simp⟩] at found
      cases found

theorem straighten_with_unlinked (enter : Names → Path → Except Names Names) (start names : Names)
    (plain : ".." ∉ names) (free : ∀ above, above <+: start ++ names → tree.link? above = none) :
    tree.straightenWith enter start names = .ok (start ++ names) := by
  induction names generalizing start with
  | nil => rw [straightenWith, List.append_nil]
  | cons name rest ih =>
      rw [List.mem_cons, not_or] at plain
      have shape : start ++ name :: rest = start ++ [name] ++ rest := by simp
      rw [straightenWith, if_neg (Ne.symm plain.1), free (start ++ [name]) ⟨rest, by simp⟩]
      rw [shape] at free ⊢
      exact ih (start ++ [name]) plain.2 free

theorem straighten_unlinked (depth : Nat) (passed : List Names) (start names : Names) (plain : ".." ∉ names)
    (free : ∀ above, above <+: start ++ names → tree.link? above = none) :
    tree.straighten depth passed start names = .ok (start ++ names) := by
  cases depth with
  | zero => exact straighten_with_unlinked _ start names plain free
  | succ depth => exact straighten_with_unlinked _ start names plain free

theorem resolve_unlinked (directory : Path) (names : Names) (plain : ".." ∉ names)
    (free : ∀ above, above <+: names → tree.link? above = none) :
    tree.resolve directory (fileAt names) = .ok names := by
  rw [resolve, find_root]
  cases done : tree.follow maxLinks [] names with
  | ok place => rw [(follow_leads maxLinks [] names place done).unlinked plain free, List.nil_append]
  | error lost =>
      have joined : (directory.join (fileAt names)).parts = names := by rw [Path.join, if_neg (by simp [fileAt])]; rfl
      simp only [joined, straighten_unlinked _ _ [] names plain free, List.nil_append]

end Tree

variable {settings : Settings} {tree : Tree} {paths : List Path}

theorem expand_file (path file : Path) (member : file ∈ expand settings tree path) :
    ∃ names, file = fileAt names ∧ (tree.number? names).isSome = true := by
  unfold expand at member
  split at member
  · simp at member
  · rename_i place found
    split at member
    · rename_i present
      refine ⟨path.parts, List.mem_singleton.mp member, ?_⟩
      rwa [Tree.number?, found, Option.bind_some]
    · obtain ⟨listed, present⟩ := List.mem_filter.mp member
      obtain ⟨names, _, rfl⟩ := List.mem_map.mp listed
      exact ⟨_, rfl, present⟩

theorem mem_discover_iff (file : Path) :
    file ∈ discover settings tree paths ↔
      (∃ path ∈ paths, file ∈ expand settings tree path) ∧ settings.accepts file.suffix = true := by
  rw [discover, Path.mem_in_order_iff, List.mem_filter, List.mem_flatMap]

theorem discover_file (file : Path) (member : file ∈ discover settings tree paths) :
    ∃ names, file = fileAt names ∧ (tree.number? names).isSome = true ∧ settings.accepts file.suffix = true := by
  obtain ⟨⟨path, _, expanded⟩, accepted⟩ := (mem_discover_iff file).mp member
  obtain ⟨names, rfl, present⟩ := expand_file path file expanded
  exact ⟨names, rfl, present, accepted⟩

theorem discover_increasing : (discover settings tree paths).Pairwise fun a b => a.parts < b.parts := by
  refine Path.in_order_increasing _ fun file member => ?_
  obtain ⟨path, _, expanded⟩ := List.mem_flatMap.mp (List.mem_filter.mp member).1
  obtain ⟨names, rfl, _⟩ := expand_file path file expanded
  rfl

theorem discover_congr (others paths : List Path) (same : ∀ path, path ∈ others ↔ path ∈ paths) :
    discover settings tree others = discover settings tree paths := by
  refine Path.increasing_unique _ _ discover_increasing discover_increasing fun file => ?_
  simp only [mem_discover_iff, same]

theorem discover_eq (ordered : List Path) (increasing : ordered.Pairwise fun a b => a.parts < b.parts)
    (only : ∀ path ∈ paths, ∀ file ∈ expand settings tree path, settings.accepts file.suffix = true → file ∈ ordered)
    (all : ∀ file ∈ ordered, (∃ path ∈ paths, file ∈ expand settings tree path) ∧
      settings.accepts file.suffix = true) : discover settings tree paths = ordered := by
  refine Path.increasing_unique _ _ discover_increasing increasing fun file => ?_
  rw [mem_discover_iff]
  constructor
  · rintro ⟨⟨path, given, expanded⟩, accepted⟩
    exact only path given file expanded accepted
  · exact all file

end Rethrow
