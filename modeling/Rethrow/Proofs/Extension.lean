import Rethrow.Proofs.Rejection

/-!
Settings that are extended by names. An extension is an ordered union: what was listed stays in front, and what is new
follows in the order in which it was first named. Which names a run goes by depends on the names that its options give,
and not on their order.
-/
set_option autoImplicit false

namespace Rethrow

namespace Settings

theorem added_first (settings : Settings) (extra : List String) :
    FirstOccurrences (extra.filter (· ∉ settings.constructors)) (settings.added extra) := by
  have empty : FirstOccurrences [] [] := ⟨fun _ => Iff.rfl, List.Pairwise.nil⟩
  exact empty.add_names _

theorem mem_added_iff (settings : Settings) (extra : List String) (name : String) :
    name ∈ settings.added extra ↔ name ∈ extra ∧ name ∉ settings.constructors := by
  rw [(settings.added_first extra).mem, List.mem_filter, decide_eq_true_iff]

theorem mem_with_constructors (settings : Settings) (extra : List String) (name : String) (listed : name ∈ extra) :
    name ∈ (settings.withConstructors extra).constructors := by
  rw [with_constructors_eq]
  by_cases old : name ∈ settings.constructors
  · exact List.mem_append_left _ old
  · exact List.mem_append_right _ ((settings.mem_added_iff extra name).mpr ⟨listed, old⟩)

theorem with_constructors_append (settings : Settings) (first second : List String) :
    (settings.withConstructors first).withConstructors second = settings.withConstructors (first ++ second) := by
  rw [withConstructors, withConstructors, withConstructors, List.foldl_append]

theorem with_constructors_known (settings : Settings) (extra : List String)
    (known : ∀ name ∈ extra, name ∈ settings.constructors) : settings.withConstructors extra = settings := by
  have nothing : settings.added extra = [] := by
    rw [List.eq_nil_iff_forall_not_mem]
    intro name held
    obtain ⟨listed, new⟩ := (settings.mem_added_iff extra name).mp held
    exact new (known name listed)
  rw [with_constructors_eq, nothing, List.append_nil]

theorem with_constructors_nodup (settings : Settings) (extra : List String) (distinct : settings.constructors.Nodup) :
    (settings.withConstructors extra).constructors.Nodup := by
  rw [with_constructors_eq]
  refine List.nodup_append.mpr ⟨distinct, (settings.added_first extra).nodup, ?_⟩
  rintro name old _ new rfl
  exact ((settings.mem_added_iff extra name).mp new).2 old

-- The old part is the same list, and the new parts have the same members, each once.
theorem with_constructors_perm (settings : Settings) (left right : List String)
    (same : ∀ name, name ∈ left ↔ name ∈ right) :
    (settings.withConstructors left).constructors.Perm (settings.withConstructors right).constructors := by
  rw [with_constructors_eq, with_constructors_eq]
  apply List.Perm.append_left
  rw [List.perm_ext_iff_of_nodup (settings.added_first left).nodup (settings.added_first right).nodup]
  intro name
  rw [mem_added_iff, mem_added_iff, same]

end Settings

namespace Command

theorem settings_reordered (options : Options) (names : List String) (session after : Session)
    (settings : Settings) (same : ∀ name, name ∈ names ↔ name ∈ options.constructors)
    (done : options.settings.run.run session = (.ok settings, after)) :
    ∃ listed, listed.Perm settings.constructors ∧
      ({ options with constructors := names } : Options).settings.run.run session =
        (.ok { settings with constructors := listed }, after) := by
  obtain ⟨base, loaded, rfl⟩ := settings_inversion options session after settings done
  refine ⟨(base.withConstructors names).constructors, base.with_constructors_perm _ _ same, ?_⟩
  rw [Options.settings, Run.run_bind_get, Run.run_bind_ok loaded]
  rfl

end Command

namespace Settings

theorem extension_ordered_union (settings : Settings) (names others : List String) :
    (settings.withConstructors names).withConstructors others = settings.withConstructors (names ++ others) ∧
    (settings.withConstructors names).withConstructors names = settings.withConstructors names ∧
    (∃ added, settings.withConstructors names = { settings with constructors := settings.constructors ++ added } ∧
      FirstOccurrences (names.filter (· ∉ settings.constructors)) added ∧ added.Nodup) ∧
    (settings.constructors.Nodup → (settings.withConstructors names).constructors.Nodup) ∧
    ∀ (read : Reader) (options : Command.Options) (paths : List Path),
      Command.reports read options paths = (options.settings >>= fun effective =>
        read.reportPaths effective options.fix paths options.changedSince) ∧
      ∀ (flags : List String) (session after : Session) (effective : Settings),
        (∀ flag, flag ∈ flags ↔ flag ∈ options.constructors) →
        options.settings.run.run session = (.ok effective, after) →
        ∃ listed, listed.Perm effective.constructors ∧
          ({ options with constructors := flags } : Command.Options).settings.run.run session =
            (.ok { effective with constructors := listed }, after) := by
  refine ⟨settings.with_constructors_append names others, ?_, ?_, settings.with_constructors_nodup names, ?_⟩
  · exact with_constructors_known _ names fun name listed => settings.mem_with_constructors names name listed
  · exact ⟨settings.added names, settings.with_constructors_eq names, settings.added_first names,
      (settings.added_first names).nodup⟩
  · intro read options paths
    refine ⟨rfl, ?_⟩
    intro flags session after effective same done
    exact Command.settings_reordered options flags session after effective same done

def repeatedNames : Command.Options := { constructors := ["NetError", "DbError", "NetError", "Error"] }

def namedSession : Session :=
  { directory := ⟨.root, ["home"]⟩
    store :=
      { tree := { files := [(["home", "causelint.toml"], 0)] }
        contents := [(0, Utf8.encode "error-constructors = ['DbError', 'Error']")] } }

theorem repeated_names_united :
    (withConstructors { constructors := ["Error", "DbError"] } repeatedNames.constructors).constructors.Nodup ∧
      ∃ after listed, repeatedNames.settings.run.run namedSession =
          (.ok { constructors := ["Error", "DbError", "NetError"] }, after) ∧
        listed.Perm ["Error", "DbError", "NetError"] ∧
        ({ repeatedNames with constructors := ["Error", "NetError", "DbError"] } : Command.Options).settings.run.run
          namedSession = (.ok { constructors := listed }, after) := by
  obtain ⟨_, _, _, distinct, run⟩ :=
    extension_ordered_union { constructors := ["Error", "DbError"] } repeatedNames.constructors []
  refine ⟨distinct (by decide), ?_⟩
  have told : (repeatedNames.settings.run.run namedSession).1.toOption =
      some { constructors := ["Error", "DbError", "NetError"] } := by decide +kernel
  rcases done : repeatedNames.settings.run.run namedSession with ⟨failure | effective, after⟩
  · rw [done] at told
    cases told
  · rw [done] at told
    obtain rfl := Option.some.inj told
    have same : ∀ flag, flag ∈ ["Error", "NetError", "DbError"] ↔ flag ∈ repeatedNames.constructors := by
      simp [repeatedNames, or_comm, or_left_comm]
    obtain ⟨listed, permuted, again⟩ :=
      (run Script.parse repeatedNames []).2 ["Error", "NetError", "DbError"] namedSession after _ same done
    exact ⟨after, listed, rfl, permuted, again⟩

end Settings
end Rethrow
