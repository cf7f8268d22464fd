import Rethrow.Proofs.Treatment

/-!
What a run with repairs does to the files. A file becomes what its repairs leave, one after the other under the selected
paths that lead to it; no other file is touched. Each repair leaves the old bytes with the selected ranges replaced.
-/
set_option autoImplicit false

namespace Rethrow

def Tree.leadsTo (tree : Tree) (file : Nat) (path : Path) : Bool := tree.number? path.parts = some file

theorem Tree.leads_to_iff (tree : Tree) (file : Nat) (path : Path) :
    tree.leadsTo file path = true ↔ tree.number? path.parts = some file := decide_eq_true_iff

theorem Tree.leads_elsewhere {tree : Tree} {names : Names} {file other : Nat} (leads : tree.number? names = some file)
    (different : other ≠ file) : ¬ tree.leadsTo other (fileAt names) = true := by
  rw [leads_to_iff]
  intro found
  exact different (Option.some.inj (found.symm.trans leads))

namespace Reader

/-- What becomes of bytes that are repaired under one path after the other. Those that are no text stay. -/
inductive Rounds (read : Reader) (settings : Settings) : Bytes → List Path → Bytes → Prop
  | nil (bytes : Bytes) : Rounds read settings bytes [] bytes
  | garbled (bytes content : Bytes) (path : Path) (rest : List Path) (error : Utf8.DecodeError)
      (failed : Utf8.decode bytes = .error error) (later : Rounds read settings bytes rest content) :
      Rounds read settings bytes (path :: rest) content
  | replaced (bytes next content : Bytes) (path : Path) (rest : List Path) (source : String) (dialect : Dialect)
      (decoded : Utf8.decode bytes = .ok source) (supported : Dialect.ofSuffix? path.suffix = some dialect)
      (edited : Edit.Replaces 0 bytes (read.edits settings dialect source) next)
      (later : Rounds read settings next rest content) : Rounds read settings bytes (path :: rest) content

variable {read : Reader} {settings : Settings} {bytes next content : Bytes} {path : Path} {rest : List Path}

theorem Rounds.changed {paths : List Path} (rounds : read.Rounds settings bytes paths content)
    (differs : content ≠ bytes) :
    ∃ path ∈ paths, ∃ source dialect, Utf8.decode bytes = .ok source ∧ Dialect.ofSuffix? path.suffix = some dialect ∧
      read.edits settings dialect source ≠ [] := by
  induction rounds with
  | nil bytes => exact absurd rfl differs
  | garbled bytes content path rest error failed later ih =>
      obtain ⟨other, listed, found⟩ := ih differs
      exact ⟨other, List.mem_cons_of_mem _ listed, found⟩
  | replaced bytes next content path rest source dialect decoded supported edited later ih =>
      by_cases unedited : read.edits settings dialect source = []
      · rw [unedited] at edited
        obtain rfl := edited.no_edits
        obtain ⟨other, listed, found⟩ := ih differs
        exact ⟨other, List.mem_cons_of_mem _ listed, found⟩
      · exact ⟨path, List.mem_cons_self, source, dialect, decoded, supported, unedited⟩

theorem Rounds.single {source : String} (rounds : read.Rounds settings bytes [path] content)
    (text : Utf8.decode bytes = .ok source) :
    ∃ dialect, Dialect.ofSuffix? path.suffix = some dialect ∧
      Edit.Replaces 0 bytes (read.edits settings dialect source) content := by
  cases rounds with
  | garbled _ _ _ _ error failed later =>
      rw [failed] at text
      cases text
  | replaced _ next _ _ _ other dialect decoded supported edited later =>
      rw [decoded] at text
      cases text
      cases later
      exact ⟨dialect, supported, edited⟩

end Reader

end Rethrow
