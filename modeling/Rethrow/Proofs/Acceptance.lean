import Mathlib.Data.List.Basic
import Rethrow.Proofs.Loading
import Rethrow.Proofs.Validation

/-!
Settings that a configuration can lead to. Only suffixes that are understood are accepted, whatever the case of their
letters, so that every file with a suffix that is looked at has a dialect.
-/
set_option autoImplicit false

namespace Rethrow
open Run

namespace Settings

theorem with_constructors_supported {settings : Settings} (supported : settings.Supported) (names : List String) :
    (settings.withConstructors names).Supported := supported

theorem of_table_supported (value : Value) (settings : Settings) (accepted : ofTable value = .ok settings) :
    settings.Supported := by
  obtain ⟨entries, _, valid, rfl⟩ := (of_table_ok_iff value settings).mp accepted
  exact valid.loaded.supported

theorem Supported.dialect {settings : Settings} (supported : settings.Supported) (suffix : String)
    (accepted : settings.accepts suffix = true) : ∃ dialect, Dialect.ofSuffix? suffix = some dialect := by
  rw [accepts, List.contains_iff_mem, List.mem_map] at accepted
  obtain ⟨extension, member, same⟩ := accepted
  have known := supported extension member
  rw [same, Dialect.supported, List.mem_map] at known
  obtain ⟨entry, listed, named⟩ := known
  rw [← Option.isSome_iff_exists, Dialect.ofSuffix?, List.lookup_isSome_iff]
  exact ⟨entry, listed, by simp [named]⟩

end Settings

namespace Configuration

theorem of_document_supported (path : Path) (document : Value) (settings : Settings)
    (found : ofDocument path document = .ok (some settings)) : settings.Supported := by
  have accepted : ∀ table : Value,
      (do return some (← (Settings.ofTable table).mapError (ConfigurationError.invalid path))) =
        Except.ok (some settings) → settings.Supported := by
    intro table found
    cases accepted : Settings.ofTable table with
    | error fault => simp [accepted, bind, Except.bind, Except.mapError] at found
    | ok other =>
        simp only [accepted, bind, Except.bind, Except.mapError] at found
        cases found
        exact Settings.of_table_supported table settings accepted
  unfold ofDocument at found
  by_cases project : path.name = projectName
  · rw [if_pos project] at found
    rcases place : section? path document with error | _ | table
    · simp [place, bind, Except.bind] at found
    · simp [place, bind, Except.bind, pure, Except.pure] at found
    · rw [place] at found
      exact accepted table found
  · rw [if_neg project] at found
    exact accepted document found

theorem of_bytes_supported (path : Path) (bytes : Bytes) (settings : Settings)
    (found : ofBytes path bytes = .ok (some settings)) : settings.Supported := by
  unfold ofBytes at found
  split at found
  · cases found
  · split at found
    · cases found
    · rename_i document _
      cases loaded : ofDocument path document with
      | error error => simp [loaded, Except.mapError] at found
      | ok settings' =>
          simp only [loaded, Except.mapError, Except.ok.injEq] at found
          subst found
          exact of_document_supported path document settings loaded

theorem load_supported (root : Path) (explicit : Option Path) (session after : Session) (settings : Settings)
    (done : (load root explicit).run.run session = (.ok settings, after)) : settings.Supported := by
  have outcome := load_eq root explicit session
  rw [done] at outcome
  rcases first : session.firstFile? (candidates root explicit) with _ | ⟨path, bytes⟩
  · rw [first] at outcome
    cases explicit with
    | none =>
        cases outcome
        exact Settings.default_supported
    | some path => cases outcome
  · rw [first] at outcome
    rcases told : ofBytes path bytes with failure | _ | found
    · simp [told, Except.map] at outcome
    · simp only [told, Except.map, Option.getD_none, Except.ok.injEq] at outcome
      exact outcome ▸ Settings.default_supported
    · simp only [told, Except.map, Option.getD_some, Except.ok.injEq] at outcome
      exact outcome ▸ of_bytes_supported path bytes found told

end Configuration
end Rethrow
