import Rethrow.Proofs.Discovery
import Rethrow.Proofs.Restriction

/-!
Every file that accepted settings select can be read. Suffixes are compared in small letters when settings are
accepted, when a file is discovered and when its dialect is looked up, so the three agree for letters of any case.
-/
set_option autoImplicit false

namespace Rethrow

theorem Dialect.of_suffix_congr (left right : String) (same : lower left = lower right) :
    ofSuffix? left = ofSuffix? right := by
  rw [ofSuffix?, ofSuffix?, same]

namespace Settings

variable {settings : Settings}

theorem foldl_with_constructors_extensions (settings : Settings) (calls : List (List String)) :
    (calls.foldl withConstructors settings).extensions = settings.extensions := by
  induction calls generalizing settings with
  | nil => rfl
  | cons names rest ih => exact ih (settings.withConstructors names)

theorem Supported.extension (supported : settings.Supported) (suffix : String)
    (accepted : settings.accepts suffix = true) :
    ∃ extension ∈ settings.extensions, ∃ dialect, lower extension = lower suffix ∧
      Dialect.ofSuffix? extension = some dialect ∧ Dialect.ofSuffix? suffix = some dialect := by
  obtain ⟨dialect, known⟩ := supported.dialect suffix accepted
  obtain ⟨extension, member, same⟩ := (settings.accepts_iff suffix).mp accepted
  exact ⟨extension, member, dialect, same, (Dialect.of_suffix_congr extension suffix same).trans known, known⟩

end Settings

namespace Reader

variable {read : Reader} {settings : Settings}

theorem accepted_settings_readable (read : Reader) (aligned : read.Aligned) (table : Value) (base : Settings)
    (accepted : Settings.ofTable table = .ok base) (calls : List (List String)) (session : Session)
    (paths : List Path) (existing : ∀ path ∈ paths, session.store.tree.find? session.directory path ≠ none) :
    ∃ files, (Run.discoverFiles (calls.foldl Settings.withConstructors base) paths).run.run session =
        (.ok files, session) ∧
      (∀ file ∈ files, ∃ extension ∈ base.extensions, ∃ dialect, lower extension = lower file.suffix ∧
        Dialect.ofSuffix? extension = some dialect ∧
        ∀ source, read.script source file.suffix = .ok (read dialect source)) ∧
      ∀ fix,
        (∃ reports after, (read.reportPaths (calls.foldl Settings.withConstructors base) fix paths none).run.run
          session = (.ok reports, after)) ∧
        ∀ revision failure after,
          (read.reportPaths (calls.foldl Settings.withConstructors base) fix paths (some revision)).run.run session =
            (.error failure, after) →
          after.store = session.store ∧ ∀ error, failure ≠ .source error := by
  have same := base.foldl_with_constructors_extensions calls
  have supported : (calls.foldl Settings.withConstructors base).Supported := by
    rw [Settings.Supported, same]
    exact Settings.of_table_supported table base accepted
  refine ⟨_, Run.discover_files_found _ paths session existing, fun file member => ?_, fun fix => ⟨?_, ?_⟩⟩
  · obtain ⟨_, _, _, fits⟩ := discover_file file member
    obtain ⟨extension, listed, dialect, letters, given, known⟩ := supported.extension file.suffix fits
    refine ⟨extension, same ▸ listed, dialect, letters, given, fun source => ?_⟩
    simp only [script, known]
  · exact report_paths_returns aligned supported fix paths none session session _
      (Run.select_files_found _ paths session existing)
  · intro revision failure after ended
    have early := report_paths_failure aligned supported fix paths (some revision) session after failure ended
    obtain ⟨store, reason⟩ := Run.select_files_ended _ paths (some revision) session after failure early
    refine ⟨store, fun error fault => ?_⟩
    subst fault
    rcases reason with refusal | missing
    · cases refusal
    · cases missing

end Reader

def motleyTable : Value := .table [("extensions", .list [.text ".TSx", .text ".mJS"])]

def motleySettings : Settings := { extensions := [".TSx", ".mJS"] }

def motleySession : Session :=
  { directory := ⟨.root, ["w"]⟩
    store :=
      { tree := { files := [(["w", "a.tsX"], 0), (["w", "b.Mjs"], 1), (["w", "c.js"], 2)] }
        contents := [0, 1, 2].map (·, Utf8.encode wideSource) } }

theorem motley_files_readable :
    Settings.ofTable motleyTable = .ok motleySettings ∧
      ∃ files, (Run.discoverFiles (motleySettings.withConstructors ["TypeError"]) [.ofText "."]).run.run motleySession =
          (.ok files, motleySession) ∧
        fileAt ["w", "a.tsX"] ∈ files ∧ fileAt ["w", "b.Mjs"] ∈ files ∧ fileAt ["w", "c.js"] ∉ files ∧
        (∀ file ∈ files, ∀ source, ∃ script, Script.ofSource source file.suffix = .ok script) ∧
        ∃ reports after,
          (Run.reportPaths (motleySettings.withConstructors ["TypeError"]) true [.ofText "."] none).run.run
            motleySession = (.ok reports, after) := by
  have accepted : Settings.ofTable motleyTable = .ok motleySettings := by decide +kernel
  have existing : ∀ path ∈ [Path.ofText "."],
      motleySession.store.tree.find? motleySession.directory path ≠ none := by decide +kernel
  obtain ⟨files, found, readable, runs⟩ := Reader.accepted_settings_readable Script.parse Script.parse_aligned
    motleyTable motleySettings accepted [["TypeError"]] motleySession [.ofText "."] existing
  cases found.symm.trans (Run.discover_files_found _ _ motleySession existing)
  refine ⟨accepted, _, found, (mem_discover_iff _).mpr (by decide +kernel),
    (mem_discover_iff _).mpr (by decide +kernel), fun listed => ?_, fun file member source => ?_, (runs true).1⟩
  · have standing := (mem_discover_iff _).mp listed
    revert standing
    decide +kernel
  · obtain ⟨_, _, dialect, _, _, parsed⟩ := readable file member
    exact ⟨_, parsed source⟩

end Rethrow
