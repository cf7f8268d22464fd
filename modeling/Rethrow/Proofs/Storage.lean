import Mathlib.Data.List.Basic
import Mathlib.Data.List.Nodup
import Mathlib.Data.List.Pairwise
import Rethrow.Discovery

/-!
Trees and the ways through them. What a way comes to is stated once, as a relation with one case for each step; a place
at which something stands is reached by its own names, since no link stands on the way to it. Writing to a file changes
the content of that file alone, under all its names.
-/
set_option autoImplicit false

namespace Rethrow

theorem Store.read_write (store : Store) (file other : Nat) (content : Bytes) :
    (store.write file content).read other = if other = file then content else store.read other := by
  rw [write, read, read, List.lookup_cons]
  by_cases same : other = file
  · rw [if_pos same, beq_iff_eq.mpr same]
    rfl
  · rw [if_neg same, beq_eq_false_iff_ne.mpr same]

theorem is_name_proper (name : String) (proper : isName name = true) : name ≠ ".." ∧ '\x00' ∉ name.toList := by
  rw [isName, Bool.and_eq_true, decide_eq_true_iff, Bool.not_eq_true', List.any_eq_false] at proper
  constructor
  · rintro rfl
    simp at proper
  · intro null
    simpa using proper.2 _ null

namespace Tree

theorem is_below_iff (directory place : Names) :
    isBelow directory place = true ↔ ∃ name rest, place = directory ++ name :: rest := by
  rw [isBelow, Bool.and_eq_true, List.isPrefixOf_iff_prefix, decide_eq_true_iff]
  constructor
  · rintro ⟨⟨rest, rfl⟩, longer⟩
    cases rest with
    | nil => simp at longer
    | cons name rest => exact ⟨name, rest, rfl⟩
  · rintro ⟨name, rest, rfl⟩
    exact ⟨List.prefix_append _ _, by simp⟩

theorem lookup_mem {α : Type} (entries : List (Names × α)) (place : Names) (value : α)
    (found : entries.lookup place = some value) : (place, value) ∈ entries := by
  obtain ⟨front, back, rfl, _⟩ := List.lookup_eq_some_iff.mp found
  simp

variable {tree : Tree} {place : Names}

theorem file_iff : (tree.file? place).isSome = true ↔ place ∈ tree.files.map (·.1) := by
  rw [file?, List.lookup_isSome_iff, List.mem_map]
  simp only [beq_iff_eq, @eq_comm _ place]

theorem file_leaf (found : (tree.file? place).isSome = true) : place ∈ tree.leaves :=
  List.mem_append_left _ (file_iff.mp found)

theorem link_mem {target : Path} (found : tree.link? place = some target) : place ∈ tree.links.map (·.1) :=
  List.mem_map.mpr ⟨_, lookup_mem _ _ _ found, rfl⟩

theorem link_leaf {target : Path} (found : tree.link? place = some target) : place ∈ tree.leaves :=
  List.mem_append_right _ (link_mem found)

theorem directory_iff :
    tree.isDirectory place = true ↔ place = [] ∨ place ∈ tree.directories ∨
      ∃ other ∈ tree.leaves ++ tree.directories, isBelow place other = true := by
  rw [isDirectory, Bool.or_eq_true, Bool.or_eq_true, List.isEmpty_iff, List.contains_iff_mem, List.any_eq_true,
    or_assoc]

theorem has_iff :
    tree.has place = true ↔ (tree.file? place).isSome = true ∨ tree.isDirectory place = true := by
  rw [has, Bool.or_eq_true]

theorem has_listed (present : tree.has place = true) :
    place = [] ∨ ∃ other ∈ tree.leaves ++ tree.directories, place <+: other := by
  rcases has_iff.mp present with file | directory
  · exact .inr ⟨place, List.mem_append_left _ (file_leaf file), List.prefix_refl _⟩
  · rcases directory_iff.mp directory with empty | listed | ⟨other, listed, below⟩
    · exact .inl empty
    · exact .inr ⟨place, List.mem_append_right _ listed, List.prefix_refl _⟩
    · obtain ⟨name, rest, rfl⟩ := (is_below_iff place other).mp below
      exact .inr ⟨_, listed, List.prefix_append _ _⟩

theorem has_named (present : tree.has place = true) : ∀ name ∈ place, isName name = true := by
  rcases has_listed present with rfl | ⟨other, listed, rest, rfl⟩
  · simp
  · exact fun name member => tree.named _ listed name (List.mem_append_left _ member)

theorem has_plain (present : tree.has place = true) : ".." ∉ place := fun dots =>
  (is_name_proper _ (has_named present _ dots)).1 rfl

theorem directory_above {name : String} {rest : Names} (present : tree.has (place ++ name :: rest) = true) :
    tree.isDirectory place = true := by
  rcases has_listed present with empty | ⟨other, listed, more, rfl⟩
  · simp at empty
  · refine directory_iff.mpr (.inr (.inr ⟨_, listed, (is_below_iff _ _).mpr ⟨name, rest ++ more, ?_⟩⟩))
    rw [List.append_assoc, List.cons_append]

theorem leaf_unique {leaf other : Names} (listed : leaf ∈ tree.leaves) (held : other ∈ tree.leaves)
    (begins : leaf <+: other) : leaf = other := by
  by_contra different
  have symmetric : Std.Symm fun left right : Names => ¬ left <+: right ∧ ¬ right <+: left :=
    ⟨fun _ _ apart => ⟨apart.2, apart.1⟩⟩
  exact (tree.apart.forall listed held different).1 begins

theorem link_none {above : Names} (present : tree.has place = true) (begins : above <+: place) :
    tree.link? above = none := by
  rw [Option.eq_none_iff_forall_ne_some]
  intro target found
  have leaf := link_leaf found
  rcases has_iff.mp present with file | directory
  · obtain rfl := leaf_unique leaf (file_leaf file) begins
    have apart := (List.pairwise_append.mp tree.apart).2.2 _ (file_iff.mp file) _ (link_mem found)
    exact apart.1 begins
  · rcases directory_iff.mp directory with rfl | listed | ⟨other, listed, below⟩
    · exact tree.closed above leaf [] List.mem_cons_self begins
    · exact tree.closed above leaf place (List.mem_cons_of_mem _ listed) begins
    · obtain ⟨name, rest, rfl⟩ := (is_below_iff place other).mp below
      have longer : above <+: place ++ name :: rest := begins.trans (List.prefix_append _ _)
      rcases List.mem_append.mp listed with held | held
      · have size := begins.length_le
        rw [leaf_unique leaf held longer, List.length_append, List.length_cons] at size
        omega
      · exact tree.closed above leaf _ (List.mem_cons_of_mem _ held) longer

/-- Where names lead from a place on: back, on to what stands there, or to where a link points. -/
inductive Leads (tree : Tree) : Names → Names → Names → Prop
  | arrive (place : Names) (present : tree.has place = true) : Leads tree place [] place
  | climb (place rest goal : Names) (inside : tree.isDirectory place = true)
      (onward : Leads tree place.dropLast rest goal) : Leads tree place (".." :: rest) goal
  | enter (place rest goal : Names) (name : String) (inside : tree.isDirectory place = true) (plain : name ≠ "..")
      (free : tree.link? (place ++ [name]) = none) (onward : Leads tree (place ++ [name]) rest goal) :
      Leads tree place (name :: rest) goal
  | jump (place rest goal : Names) (name : String) (target : Path) (inside : tree.isDirectory place = true)
      (plain : name ≠ "..") (found : tree.link? (place ++ [name]) = some target)
      (onward : Leads tree (target.start place) (target.parts ++ rest) goal) : Leads tree place (name :: rest) goal

theorem walk_leads (jump : Names → Names → Except Lost Names)
    (sound : ∀ start names goal, jump start names = .ok goal → tree.Leads start names goal) (start names goal : Names)
    (done : tree.walk jump start names = .ok goal) : tree.Leads start names goal := by
  induction names generalizing start with
  | nil =>
      rw [walk] at done
      split at done <;> cases done
      rename_i present
      exact .arrive _ present
  | cons name rest ih =>
      rw [walk] at done
      cases inside : tree.isDirectory start with
      | false =>
          rw [inside] at done
          cases done
      | true =>
          rw [inside, Bool.not_true, if_neg Bool.false_ne_true] at done
          by_cases dots : name = ".."
          · rw [if_pos dots] at done
            exact dots ▸ .climb start rest goal inside (ih _ done)
          · rw [if_neg dots] at done
            cases found : tree.link? (start ++ [name]) with
            | none =>
                rw [found] at done
                exact .enter start rest goal name inside dots found (ih _ done)
            | some target =>
                rw [found] at done
                exact .jump start rest goal name target inside dots found (sound _ _ _ done)

theorem follow_leads (links : Nat) (start names goal : Names) (done : tree.follow links start names = .ok goal) :
    tree.Leads start names goal := by
  induction links generalizing start names goal with
  | zero =>
      refine walk_leads _ (fun _ _ _ stuck => ?_) start names goal done
      cases stuck
  | succ links ih => exact walk_leads _ ih start names goal done

namespace Leads

variable {start names goal : Names}

theorem start_has (leads : tree.Leads start names goal) : tree.has start = true := by
  cases leads with
  | arrive place present => exact present
  | climb place rest goal inside onward => exact has_iff.mpr (.inr inside)
  | enter place rest goal name inside plain free onward => exact has_iff.mpr (.inr inside)
  | jump place rest goal name target inside plain found onward => exact has_iff.mpr (.inr inside)

theorem goal_has (leads : tree.Leads start names goal) : tree.has goal = true := by
  induction leads with
  | arrive place present => exact present
  | climb place rest goal inside onward ih => exact ih
  | enter place rest goal name inside plain free onward ih => exact ih
  | jump place rest goal name target inside plain found onward ih => exact ih

theorem clean (leads : tree.Leads start names goal) : ∀ name ∈ names, '\x00' ∉ name.toList := by
  induction leads with
  | arrive place present => simp
  | climb place rest goal inside onward ih => exact List.forall_mem_cons.mpr ⟨by decide, ih⟩
  | enter place rest goal name inside plain free onward ih =>
      have proper := has_named onward.start_has name (by simp)
      exact List.forall_mem_cons.mpr ⟨(is_name_proper name proper).2, ih⟩
  | jump place rest goal name target inside plain found onward ih =>
      have proper := tree.named _ (List.mem_append_left _ (link_leaf found)) name (by simp)
      exact List.forall_mem_cons.mpr
        ⟨(is_name_proper name proper).2, fun other member => ih other (List.mem_append_right _ member)⟩

end Leads

theorem walk_place (jump : Names → Names → Except Lost Names) (start rest : Names)
    (present : tree.has (start ++ rest) = true) : tree.walk jump start rest = .ok (start ++ rest) := by
  induction rest generalizing start with
  | nil =>
      rw [List.append_nil] at present ⊢
      rw [walk, if_pos present]
  | cons name rest ih =>
      have plain : name ≠ ".." := fun dots => has_plain present (by simp [dots])
      have free : tree.link? (start ++ [name]) = none := link_none present ⟨rest, by simp⟩
      have shape : start ++ name :: rest = start ++ [name] ++ rest := by simp
      rw [walk, directory_above present, Bool.not_true, if_neg Bool.false_ne_true, if_neg plain, free, shape]
      exact ih (start ++ [name]) (shape ▸ present)

theorem follow_place (links : Nat) (present : tree.has place = true) : tree.follow links [] place = .ok place := by
  cases links with
  | zero => exact walk_place _ [] place present
  | succ links => exact walk_place _ [] place present

theorem find_root (directory : Path) (names : Names) :
    tree.find directory (fileAt names) = tree.follow maxLinks [] names := by
  rw [find, Path.start, if_neg (by simp [fileAt])]
  rfl

theorem reach_place (present : tree.has place = true) : tree.reach? place = some place := by
  rw [reach?, follow_place maxLinks present]
  rfl

theorem find_leads (directory path : Path) (found : tree.find? directory path = some place) :
    tree.Leads (path.start directory.parts) path.parts place := by
  cases done : tree.find directory path with
  | error lost => simp [find?, done, Except.toOption] at found
  | ok goal =>
      simp only [find?, done, Except.toOption, Option.some.injEq] at found
      exact follow_leads maxLinks _ _ _ (found ▸ done)

theorem find_clean (directory path : Path) (found : tree.find? directory path = some place) :
    path.hasNull = false := by
  rw [Path.hasNull, List.any_eq_false]
  intro name member
  simpa using (find_leads directory path found).clean name member

theorem number_iff (directory : Path) (names : Names) (file : Nat) :
    tree.number? names = some file ↔
      ∃ place, tree.find directory (fileAt names) = .ok place ∧ tree.file? place = some file := by
  rw [number?, reach?, find_root, Option.bind_eq_some_iff]
  cases tree.follow maxLinks [] names <;> simp [Except.toOption]

theorem number_clean (names : Names) (file : Nat) (leads : tree.number? names = some file) :
    (fileAt names).hasNull = false := by
  obtain ⟨place, found, _⟩ := (number_iff (fileAt []) names file).mp leads
  have reached : tree.find? (fileAt []) (fileAt names) = some place := by
    rw [find?, found]
    rfl
  exact find_clean _ _ reached

theorem number_place {file : Nat} (found : tree.file? place = some file) : tree.number? place = some file := by
  have present : tree.has place = true := has_iff.mpr (.inl (by rw [found]; rfl))
  rw [number?, reach_place present, Option.bind_some, found]

end Tree
end Rethrow
