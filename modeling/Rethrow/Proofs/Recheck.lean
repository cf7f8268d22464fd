import Rethrow.Proofs.Loading
import Rethrow.Proofs.Rejection

/-!
Looking again after a repair. A run with repairs reports what a run without them finds in the files that it leaves, as
long as no file is repaired a second time under another of its names and the configuration is left as it was. Then both
report the same files in the same order, with the same findings, and end with the same code.
-/
set_option autoImplicit false

namespace Rethrow

namespace Reader

/-- What a repair under a path leaves of bytes. -/
def rewritten (read : Reader) (settings : Settings) (path : Path) (bytes : Bytes) : Bytes :=
  match read.repairContent settings path bytes with
  | .ok (_, content) => content
  | .error _ => bytes

/-- What the first path to a file leaves of it, the other paths to it leave as it is. -/
def Steady (read : Reader) (settings : Settings) (store : Store) (files : List Path) : Prop :=
  ∀ file first rest, files.filter (store.tree.leadsTo file) = first :: rest →
    ∀ other ∈ rest, read.rewritten settings other (read.rewritten settings first (store.read file)) =
      read.rewritten settings first (store.read file)

variable {read : Reader} {settings : Settings} {session between after later : Session} {names : Names} {bytes : Bytes}

theorem Unshared.steady {files : List Path} (store : Store) (unshared : Unshared true store.tree files) :
    read.Steady settings store files := by
  intro file first rest led other listed
  have apart := (unshared.filter (store.tree.leadsTo file)).resolve_left Bool.noConfusion
  rw [led] at apart
  have leads : ∀ path ∈ first :: rest, store.tree.number? path.parts = some file := by
    intro path held
    rw [← led] at held
    exact (Tree.leads_to_iff _ _ _).mp (List.mem_filter.mp held).2
  refine absurd ?_ ((List.pairwise_cons.mp apart).1 other listed)
  exact (leads first List.mem_cons_self).trans (leads other (List.mem_cons_of_mem _ listed)).symm

theorem Steady.head {file : Nat} {rest : List Path} (steady : read.Steady settings session.store (fileAt names :: rest))
    (leads : session.store.tree.number? names = some file) (other : Path) (listed : other ∈ rest)
    (found : session.store.tree.number? other.parts = some file) :
    read.rewritten settings other (read.rewritten settings (fileAt names) (session.store.read file)) =
      read.rewritten settings (fileAt names) (session.store.read file) := by
  refine steady file (fileAt names) _ (List.filter_cons_of_pos ((Tree.leads_to_iff _ _ _).mpr leads)) other ?_
  exact List.mem_filter.mpr ⟨listed, (Tree.leads_to_iff _ _ _).mpr found⟩

theorem Steady.tail {file : Nat} {rest : List Path} (steady : read.Steady settings session.store (fileAt names :: rest))
    (leads : session.store.tree.number? names = some file)
    (step : session.Rewrites between file (read.rewritten settings (fileAt names) (session.store.read file))) :
    read.Steady settings between.store rest := by
  intro number first others led other listed
  rw [step.tree] at led
  rw [step.files]
  by_cases same : number = file
  · subst same
    have still : ∀ path ∈ first :: others,
        read.rewritten settings path (read.rewritten settings (fileAt names) (session.store.read number)) =
          read.rewritten settings (fileAt names) (session.store.read number) := by
      intro path held
      rw [← led] at held
      obtain ⟨member, found⟩ := List.mem_filter.mp held
      exact steady.head leads path member ((Tree.leads_to_iff _ _ _).mp found)
    rw [if_pos rfl, still first List.mem_cons_self]
    exact still other (List.mem_cons_of_mem _ listed)
  · rw [if_neg same]
    refine steady number first others ?_ other listed
    rwa [List.filter_cons_of_neg (Tree.leads_elsewhere leads same)]

end Reader

namespace Command

variable {read : Reader} {options : Options} {settings : Settings} {session between after later : Session}

end Command

end Rethrow
