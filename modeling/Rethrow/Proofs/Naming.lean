import Mathlib.Data.List.Nodup
import Rethrow.Settings

/-!
The list of constructor names as it grows. Names that are added go behind those that are there, each at its first
occurrence.
-/
set_option autoImplicit false

namespace Rethrow

/-- The names that are listed, each once, by where it is first listed. -/
structure FirstOccurrences (listed names : List String) : Prop where
  mem : ∀ name, name ∈ names ↔ name ∈ listed
  order : names.Pairwise fun left right => listed.idxOf left < listed.idxOf right

namespace FirstOccurrences

variable {listed names : List String}

theorem nodup (first : FirstOccurrences listed names) : names.Nodup :=
  first.order.imp fun before same => by
    rw [same] at before
    exact Nat.lt_irrefl _ before

theorem single (name : String) : FirstOccurrences [name] [name] :=
  ⟨fun _ => Iff.rfl, List.pairwise_singleton _ _⟩

theorem add_name (first : FirstOccurrences listed names) (name : String) :
    FirstOccurrences (listed ++ [name]) (Settings.addName names name) := by
  have kept : names.Pairwise fun left right =>
      (listed ++ [name]).idxOf left < (listed ++ [name]).idxOf right := by
    refine first.order.imp_of_mem fun {left right} leftMember rightMember before => ?_
    rwa [List.idxOf_append_of_mem ((first.mem left).mp leftMember),
      List.idxOf_append_of_mem ((first.mem right).mp rightMember)]
  by_cases known : name ∈ names
  · rw [Settings.addName, if_pos known]
    refine ⟨fun other => ?_, kept⟩
    rw [first.mem, List.mem_append, List.mem_singleton]
    exact ⟨.inl, fun held => held.elim id fun same => same ▸ (first.mem name).mp known⟩
  · rw [Settings.addName, if_neg known]
    refine ⟨fun other => by simp only [List.mem_append, first.mem], ?_⟩
    refine List.pairwise_append.mpr ⟨kept, List.pairwise_singleton _ _, ?_⟩
    intro left leftMember right rightMember
    rw [List.mem_singleton.mp rightMember]
    have listedLeft := (first.mem left).mp leftMember
    have newName : name ∉ listed := fun held => known ((first.mem name).mpr held)
    have place := List.idxOf_lt_length_of_mem listedLeft
    rw [List.idxOf_append_of_mem listedLeft, List.idxOf_append, if_neg newName]
    omega

theorem add_names (first : FirstOccurrences listed names) (extra : List String) :
    FirstOccurrences (listed ++ extra) (extra.foldl Settings.addName names) := by
  induction extra generalizing listed names with
  | nil => simpa using first
  | cons name rest ih =>
      rw [List.append_cons]
      exact ih (first.add_name name)

end FirstOccurrences

namespace Settings

theorem add_name_append (base added : List String) (name : String) :
    addName (base ++ added) name = if name ∈ base then base ++ added else base ++ addName added name := by
  by_cases old : name ∈ base
  · rw [if_pos old, addName, if_pos (List.mem_append_left added old)]
  · rw [if_neg old]
    by_cases known : name ∈ added
    · rw [addName, if_pos (List.mem_append_right base known), addName, if_pos known]
    · have new : name ∉ base ++ added := fun held => (List.mem_append.mp held).elim old known
      rw [addName, if_neg new, addName, if_neg known, List.append_assoc]

-- The list that is searched for a name is the list that grows. What is there at the start can be kept apart: the names
-- in it are left out beforehand, and the others go to a list of their own.
theorem foldl_add_name_append (base added extra : List String) :
    extra.foldl addName (base ++ added) = base ++ (extra.filter (· ∉ base)).foldl addName added := by
  induction extra generalizing added with
  | nil => rfl
  | cons name rest ih =>
      rw [List.foldl_cons, add_name_append]
      by_cases old : name ∈ base
      · rw [if_pos old, ih added, List.filter_cons_of_neg (by simpa using old)]
      · rw [if_neg old, ih (addName added name), List.filter_cons_of_pos (by simpa using old), List.foldl_cons]

def added (settings : Settings) (extra : List String) : List String :=
  (extra.filter (· ∉ settings.constructors)).foldl addName []

theorem with_constructors_eq (settings : Settings) (extra : List String) :
    settings.withConstructors extra =
      { settings with constructors := settings.constructors ++ settings.added extra } := by
  have apart := foldl_add_name_append settings.constructors [] extra
  rw [List.append_nil] at apart
  rw [withConstructors, apart]
  rfl

theorem with_constructors_extends (settings : Settings) (extra : List String) :
    settings.constructors.IsPrefix (settings.withConstructors extra).constructors := by
  rw [with_constructors_eq]
  exact List.prefix_append _ _

theorem foldl_add_name_eq (names extra : List String) (distinct : (names ++ extra).Nodup) :
    extra.foldl addName names = names ++ extra := by
  induction extra generalizing names with
  | nil => simp
  | cons name rest ih =>
      have new : name ∉ names := fun held => (List.nodup_append.mp distinct).2.2 name held name List.mem_cons_self rfl
      rw [List.foldl_cons, addName, if_neg new, ih (names ++ [name]) (by simpa using distinct), ← List.append_cons]

end Settings
end Rethrow
