import Rethrow.Proofs.Choice

/-!
The files that paths stand for. A file is discovered if it has one of the suffixes and a path leads to it, or leads to
a directory above it with no hidden or excluded directory between the two; so is a link to a file. What is discovered
comes in the order of the names and each path once, so neither the order of the given paths nor their repetition makes
a difference.
-/
set_option autoImplicit false

namespace Rethrow

/-- Names under which a file stands, or a link to one. Without links these are the files. -/
def Tree.IsFile (tree : Tree) (names : Names) : Prop := names ∈ tree.leaves ∧ (tree.number? names).isSome = true

/-- A file below a directory, past directories of which none is hidden or left out. -/
def Settings.Uncovers (settings : Settings) (directory file : Names) : Prop :=
  ∃ inner name, file = directory ++ inner ++ [name] ∧
    ∀ part ∈ inner, part.toList.head? ≠ some '.' ∧ part ∉ settings.excluded

/-- A file that a path stands for: the one it leads to, or one below the directory it leads to. -/
def Session.StandsFor (session : Session) (settings : Settings) (path : Path) (file : Names) : Prop :=
  ∃ place, session.store.tree.find? session.directory path = some place ∧
    (file = place ∨ session.store.tree.isDirectory place = true ∧ settings.Uncovers place file)

variable {settings : Settings} {tree : Tree} {session : Session} {paths : List Path}

theorem Settings.accepts_iff (settings : Settings) (suffix : String) :
    settings.accepts suffix = true ↔ ∃ extension ∈ settings.extensions, lower extension = lower suffix := by
  rw [accepts, List.contains_iff_mem, List.mem_map]

theorem Settings.passes_by_eq_false_iff (settings : Settings) (name : String) :
    settings.passesBy name = false ↔ name.toList.head? ≠ some '.' ∧ name ∉ settings.excluded := by
  simp [passesBy]

theorem Tree.file_is_file {names : Names} (found : (tree.file? names).isSome = true) : tree.IsFile names := by
  obtain ⟨file, held⟩ := Option.isSome_iff_exists.mp found
  exact ⟨file_leaf found, by rw [number_place held]; rfl⟩

theorem Tree.is_file_unlinked_iff (unlinked : tree.links = []) (names : Names) :
    tree.IsFile names ↔ names ∈ tree.files.map (·.1) := by
  constructor
  · intro standing
    simpa [leaves, unlinked] using standing.1
  · exact fun listed => file_is_file (file_iff.mpr listed)

theorem Tree.file_not_directory {place : Names} (found : (tree.file? place).isSome = true) :
    tree.isDirectory place = false := by
  have leaf := file_leaf found
  rw [← Bool.not_eq_true, directory_iff]
  rintro (rfl | listed | ⟨other, listed, below⟩)
  · exact tree.closed [] leaf [] List.mem_cons_self (List.prefix_refl _)
  · exact tree.closed place leaf place (List.mem_cons_of_mem _ listed) (List.prefix_refl _)
  · obtain ⟨name, rest, rfl⟩ := (is_below_iff place other).mp below
    rcases List.mem_append.mp listed with held | held
    · have same := leaf_unique leaf held (List.prefix_append _ _)
      simp at same
    · exact tree.closed place leaf _ (List.mem_cons_of_mem _ held) (List.prefix_append _ _)

theorem Tree.mem_below_iff (place names : Names) :
    names ∈ tree.below place ↔ place ++ names ∈ tree.leaves ∧ ∃ inner name, names = inner ++ [name] := by
  rw [below, List.mem_map]
  constructor
  · rintro ⟨leaf, listed, rfl⟩
    obtain ⟨held, under⟩ := List.mem_filter.mp listed
    obtain ⟨first, rest, rfl⟩ := (is_below_iff place leaf).mp under
    rw [List.drop_left]
    obtain ⟨inner, name, same⟩ := (List.eq_nil_or_concat (first :: rest)).resolve_left (List.cons_ne_nil _ _)
    exact ⟨held, inner, name, by rw [same, List.concat_eq_append]⟩
  · rintro ⟨held, inner, name, rfl⟩
    refine ⟨_, List.mem_filter.mpr ⟨held, (is_below_iff _ _).mpr ?_⟩, List.drop_left⟩
    cases inner with
    | nil => exact ⟨name, [], rfl⟩
    | cons part rest => exact ⟨part, rest ++ [name], rfl⟩

theorem mem_expand_iff (place file : Names) (present : tree.has place = true) :
    fileAt file ∈ expand settings tree (fileAt place) ↔
      tree.IsFile file ∧ (file = place ∨ tree.isDirectory place = true ∧ settings.Uncovers place file) := by
  have reached : tree.reach? (fileAt place).parts = some place := Tree.reach_place present
  unfold expand
  rw [reached]
  dsimp only
  by_cases given : (tree.file? place).isSome = true
  · rw [if_pos given, List.mem_singleton, Tree.file_not_directory given]
    constructor
    · intro same
      obtain rfl := file_at_injective same
      exact ⟨Tree.file_is_file given, .inl rfl⟩
    · rintro ⟨_, rfl | ⟨⟨⟩, _⟩⟩
      rfl
  · have inside := (Tree.has_iff.mp present).resolve_left given
    rw [if_neg given, List.mem_filter, List.mem_map, inside]
    constructor
    · rintro ⟨⟨names, listed, same⟩, leads⟩
      obtain rfl := file_at_injective same
      obtain ⟨held, clear⟩ := List.mem_filter.mp listed
      obtain ⟨leaf, inner, name, rfl⟩ := (Tree.mem_below_iff place names).mp held
      rw [List.dropLast_concat, Bool.not_eq_true', List.any_eq_false] at clear
      refine ⟨⟨leaf, leads⟩, .inr ⟨rfl, inner, name, by rw [List.append_assoc]; rfl, fun part member => ?_⟩⟩
      exact (settings.passes_by_eq_false_iff part).mp (Bool.eq_false_iff.mpr (clear part member))
    · rintro ⟨⟨leaf, leads⟩, rfl | ⟨_, inner, name, rfl, clear⟩⟩
      · obtain ⟨number, found⟩ := Option.isSome_iff_exists.mp leads
        rw [Tree.number?, Tree.reach_place present, Option.bind_some] at found
        exact absurd (by rw [found]; rfl) given
      · rw [List.append_assoc] at leaf leads ⊢
        refine ⟨⟨inner ++ [name], List.mem_filter.mpr ⟨(Tree.mem_below_iff _ _).mpr ⟨leaf, inner, name, rfl⟩, ?_⟩, rfl⟩,
          leads⟩
        rw [List.dropLast_concat, Bool.not_eq_true', List.any_eq_false]
        exact fun part member =>
          Bool.eq_false_iff.mp ((settings.passes_by_eq_false_iff part).mpr (clear part member))

theorem Session.mem_places_iff (session : Session) (paths : List Path) (resolved : Path) :
    resolved ∈ session.places paths ↔
      ∃ path ∈ paths, ∃ place, session.store.tree.find? session.directory path = some place ∧
        fileAt place = resolved := by
  rw [places, List.mem_filterMap]
  simp only [Option.map_eq_some_iff]

theorem mem_discovered_iff (file : Path) :
    file ∈ discover settings session.store.tree (session.places paths) ↔
      ∃ names, file = fileAt names ∧ session.store.tree.IsFile names ∧
        (∃ extension ∈ settings.extensions, lower extension = lower file.suffix) ∧
        ∃ path ∈ paths, session.StandsFor settings path names := by
  rw [mem_discover_iff, settings.accepts_iff]
  constructor
  · rintro ⟨⟨resolved, listed, expanded⟩, accepted⟩
    obtain ⟨path, given, place, found, rfl⟩ := (session.mem_places_iff paths resolved).mp listed
    obtain ⟨names, rfl, _⟩ := expand_file _ file expanded
    obtain ⟨standing, stands⟩ := (mem_expand_iff place names (Tree.find_leads _ _ found).goal_has).mp expanded
    exact ⟨names, rfl, standing, accepted, path, given, place, found, stands⟩
  · rintro ⟨names, rfl, standing, accepted, path, given, place, found, stands⟩
    refine ⟨⟨fileAt place, (session.mem_places_iff paths _).mpr ⟨path, given, place, found, rfl⟩, ?_⟩, accepted⟩
    exact (mem_expand_iff place names (Tree.find_leads _ _ found).goal_has).mpr ⟨standing, stands⟩

theorem mem_discover_append_iff (rest : List Path) (file : Path) :
    file ∈ discover settings session.store.tree (session.places (paths ++ rest)) ↔
      file ∈ discover settings session.store.tree (session.places paths) ∨
        file ∈ discover settings session.store.tree (session.places rest) := by
  simp only [mem_discover_iff, Session.places, List.filterMap_append, List.mem_append, or_and_right, exists_or]

theorem Run.discovery_exact (settings : Settings) (session : Session) (paths : List Path)
    (existing : ∀ path ∈ paths, session.store.tree.find? session.directory path ≠ none) :
    ∃ files, (discoverFiles settings paths).run.run session = (.ok files, session) ∧
      files.Pairwise (fun left right => left.parts < right.parts) ∧ files.Nodup ∧
      (∀ file, file ∈ files ↔ ∃ names, file = fileAt names ∧ session.store.tree.IsFile names ∧
        (∃ extension ∈ settings.extensions, lower extension = lower file.suffix) ∧
        ∃ path ∈ paths, session.StandsFor settings path names) ∧
      (session.store.tree.links = [] →
        ∀ names, session.store.tree.IsFile names ↔ names ∈ session.store.tree.files.map (·.1)) ∧
      (∀ others, (∀ path, path ∈ others ↔ path ∈ paths) →
        (discoverFiles settings others).run.run session = (.ok files, session)) ∧
      ∀ rest, (∀ path ∈ rest, session.store.tree.find? session.directory path ≠ none) →
        ∃ more all, (discoverFiles settings rest).run.run session = (.ok more, session) ∧
          (discoverFiles settings (paths ++ rest)).run.run session = (.ok all, session) ∧
          ∀ file, file ∈ all ↔ file ∈ files ∨ file ∈ more := by
  refine ⟨_, discover_files_found settings paths session existing, discover_increasing,
    Path.increasing_nodup _ discover_increasing, mem_discovered_iff, Tree.is_file_unlinked_iff,
    fun others same => ?_, fun rest found => ?_⟩
  · rw [discover_files_found settings others session fun path member => existing path ((same path).mp member)]
    rw [discover_congr _ (session.places paths) fun path => by simp only [Session.mem_places_iff, same]]
  · have both : ∀ path ∈ paths ++ rest, session.store.tree.find? session.directory path ≠ none := fun path member =>
      (List.mem_append.mp member).elim (existing path) (found path)
    exact ⟨_, _, discover_files_found settings rest session found, discover_files_found settings _ session both,
      mem_discover_append_iff rest⟩

/-- A hidden directory and a file of an excluded one are given themselves, and a directory and one inside it. -/
def nestedSession : Session :=
  { directory := ⟨.root, ["w"]⟩
    store :=
      { tree :=
          { files := [(["w", "src", "dist", "d.js"], 0), (["w", "src", ".c.js"], 1), (["w", "src", "e.txt"], 2),
              (["w", ".cache", "lib", "a.ts"], 3), (["w", "dist", "b.JS"], 4), (["w", "dist", "f.js"], 5)]
            directories := [["w", "empty"]] } } }

def nestedPaths : List Path := [".", "src", ".cache", "src/../dist/b.JS", "empty"].map Path.ofText

def nestedFiles : List Path :=
  [["w", ".cache", "lib", "a.ts"], ["w", "dist", "b.JS"], ["w", "src", ".c.js"]].map fileAt

theorem nested_files_discovered :
    (∀ path ∈ nestedPaths, nestedSession.store.tree.find? nestedSession.directory path ≠ none) ∧
      (Run.discoverFiles {} nestedPaths).run.run nestedSession = (.ok nestedFiles, nestedSession) ∧
      (Run.discoverFiles {} (nestedPaths.reverse ++ nestedPaths)).run.run nestedSession =
        (.ok nestedFiles, nestedSession) := by
  have existing : ∀ path ∈ nestedPaths, nestedSession.store.tree.find? nestedSession.directory path ≠ none := by
    decide +kernel
  obtain ⟨files, found, _, _, _, _, repeated, _⟩ := Run.discovery_exact {} nestedSession nestedPaths existing
  have listed : files = nestedFiles := by
    rw [Run.discover_files_found {} nestedPaths nestedSession existing] at found
    cases found
    exact discover_eq _ (by decide +kernel) (by decide +kernel) (by decide +kernel)
  exact ⟨existing, listed ▸ found, listed ▸ repeated _ (by simp)⟩

end Rethrow
