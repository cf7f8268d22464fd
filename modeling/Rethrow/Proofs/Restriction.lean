import Rethrow.Proofs.Treatment

/-!
Runs restricted to the files that changed. Such a run reports what an unrestricted one reports on the same files, and
one whose questions are not all answered ends before any file is read.
-/
set_option autoImplicit false

namespace Rethrow

namespace Reader

variable {read : Reader} {settings : Settings}

-- A report names its file, so the files may be sorted out before or after they are reported on.
theorem filter_map_told_changed (fix : Bool) (store : Store) (changes : List (List Path)) (files : List Path) :
    (files.filter changes.flatten.contains).filterMap (read.told settings fix store) =
      (files.filterMap (read.told settings fix store)).filter fun report =>
        decide (∃ files ∈ changes, report.path ∈ files) := by
  have same : ∀ file, changes.flatten.contains file = decide (∃ files ∈ changes, file ∈ files) := fun file => by
    rw [Bool.eq_iff_iff, List.contains_iff_mem, List.mem_flatten, decide_eq_true_iff]
  rw [List.filterMap_filter, List.filter_filterMap]
  refine List.filterMap_congr fun file _ => ?_
  cases reported : read.told settings fix store file with
  | none => simp
  | some report => rw [Option.filter_some, told_path fix store file report reported, same]

theorem restriction_filters (read : Reader) (aligned : read.Aligned) (table : Value) (settings : Settings)
    (accepted : Settings.ofTable table = .ok settings) (fix : Bool) (paths : List Path) (revision : String)
    (session : Session) :
    ((∀ files, (Run.selectFiles settings paths none).run.run session = (.ok files, session) →
        Unshared fix session.store.tree files) →
      ∀ reports,
        (∃ after, (read.reportPaths settings fix paths (some revision)).run.run session = (.ok reports, after)) ↔
          ∃ all last changes, (read.reportPaths settings fix paths none).run.run session = (.ok all, last) ∧
            session.Changes revision paths changes ∧
            reports = all.filter fun report => decide (∃ files ∈ changes, report.path ∈ files)) ∧
      ∀ index < 3 * paths.length, Reply.Refuses session.replies[index]? →
        ∃ failure after,
          (read.reportPaths settings fix paths (some revision)).run.run session = (.error failure, after) ∧
          after.store = session.store ∧ after.events = session.events ∧
          ((∀ earlier < index, session.replies[earlier]? ≠ some .missing) → failure.Refusal) := by
  have supported := Settings.of_table_supported table settings accepted
  have settles := Run.select_files_settles settings paths revision
  constructor
  · intro unshared reports
    constructor
    · rintro ⟨after, done⟩
      obtain ⟨files, between, selection, _⟩ := Run.bind_inversion done
      obtain ⟨found, changes, chosen, listed, rfl⟩ :=
        (Run.select_files_restricted_iff settings paths revision session files).mp ⟨between, selection⟩
      obtain ⟨last, whole⟩ := report_paths_tells aligned supported fix paths none session session found
        (unshared found chosen) chosen
      obtain ⟨_, part⟩ := report_paths_tells aligned supported fix paths (some revision) session between _
        ((unshared found chosen).filter _) selection
      rw [done] at part
      cases part
      exact ⟨_, last, changes, whole, listed, filter_map_told_changed fix session.store changes found⟩
    · rintro ⟨all, last, changes, whole, listed, rfl⟩
      obtain ⟨found, between, chosen, _⟩ := Run.bind_inversion whole
      obtain ⟨rfl, _⟩ := Run.select_files_returned settings paths session between found chosen
      obtain ⟨_, told⟩ := report_paths_tells aligned supported fix paths none session session found
        (unshared found chosen) chosen
      rw [whole] at told
      cases told
      obtain ⟨between, selection⟩ := (Run.select_files_restricted_iff settings paths revision session _).mpr
        ⟨found, changes, chosen, listed, rfl⟩
      rw [← filter_map_told_changed]
      exact report_paths_tells aligned supported fix paths (some revision) session between _
        ((unshared found chosen).filter _) selection
  · intro index bound refuses
    rcases selection : (Run.selectFiles settings paths (some revision)).run.run session with ⟨failure | files, after⟩
    · obtain ⟨⟨_, asked⟩, reason⟩ := settles.ended session failure after selection
      refine ⟨failure, after, ?_, asked.store, asked.events, fun started => ?_⟩
      · rw [reportPaths, Run.run_bind_error selection]
      · refine reason.resolve_right ?_
        rintro ⟨_, halts⟩
        obtain ⟨earlier, before, missing⟩ := refuses.halted halts
        exact started earlier before missing
    · exact absurd ((settles.returned session files after selection).2 trivial index bound) refuses.not_answers

end Reader

/-- A work tree inside another one, and the replies about both. The last question may be refused. -/
def forkedSession (reply : Reply) : Session :=
  { directory := ⟨.root, ["w"]⟩
    store :=
      { tree :=
          { files := [(["w", "a.js"], 0), (["w", "b.js"], 1), (["w", "lib", "a.js"], 2), (["w", "lib", "c.js"], 3)] }
        contents := [(0, Utf8.encode wideSource), (1, Utf8.encode wideSource), (2, Utf8.encode wideSource),
          (3, Utf8.encode wideSource)] }
    replies :=
      [.ended 0 "/w\n" "", .ended 0 "a.js\n" "", .ended 0 "" "", .ended 0 "/w/lib\n" "", .ended 0 "" "", reply] }

def forkedPaths : List Path := [".", "lib"].map Path.ofText

def forkedFiles : List Path :=
  [["w", "a.js"], ["w", "b.js"], ["w", "lib", "a.js"], ["w", "lib", "c.js"]].map fileAt

theorem forked_files_selected (reply : Reply) :
    (Run.selectFiles {} forkedPaths none).run.run (forkedSession reply) = (.ok forkedFiles, forkedSession reply) := by
  have discovered : discover {} (forkedSession .missing).store.tree ((forkedSession .missing).places forkedPaths) =
      forkedFiles := discover_eq _ (by decide +kernel) (by decide +kernel) (by decide +kernel)
  have existing : ∀ path ∈ forkedPaths,
      (forkedSession .missing).store.tree.find? (forkedSession .missing).directory path ≠ none := by decide +kernel
  rw [Run.select_files_found {} forkedPaths (forkedSession reply) existing]
  exact congrArg (fun files => (Except.ok files, forkedSession reply)) discovered

theorem forked_trees_restricted :
    Settings.ofTable (.table []) = .ok {} ∧
      (∃ reports after all last,
        (Run.reportPaths {} true forkedPaths (some "HEAD")).run.run (forkedSession (.ended 0 "c.js\n" "")) =
          (.ok reports, after) ∧
        (Run.reportPaths {} true forkedPaths none).run.run (forkedSession (.ended 0 "c.js\n" "")) = (.ok all, last) ∧
        reports = all.filter fun report =>
          decide (∃ files ∈ [[fileAt ["w", "a.js"]], [fileAt ["w", "lib", "c.js"]]], report.path ∈ files)) ∧
      ∃ failure after,
        (Run.reportPaths {} true forkedPaths (some "HEAD")).run.run (forkedSession (.ended 128 "" "no such revision")) =
          (.error failure, after) ∧
        failure.Refusal ∧ after.store = (forkedSession .missing).store := by
  have accepted : Settings.ofTable (.table []) = .ok {} := by decide +kernel
  have restricts := fun reply => Reader.restriction_filters Script.parse Script.parse_aligned (.table []) {} accepted
    true forkedPaths "HEAD" (forkedSession reply)
  have apart : forkedFiles.Pairwise fun left right =>
      (forkedSession .missing).store.tree.number? left.parts ≠
        (forkedSession .missing).store.tree.number? right.parts := by decide +kernel
  have unshared : ∀ reply files, (Run.selectFiles {} forkedPaths none).run.run (forkedSession reply) =
      (.ok files, forkedSession reply) → Reader.Unshared true (forkedSession reply).store.tree files := by
    intro reply files selection
    rw [forked_files_selected] at selection
    cases selection
    exact .inr apart
  refine ⟨accepted, ?_, ?_⟩
  · obtain ⟨files, selection⟩ := Run.returns_of_ok (Run.selectFiles {} forkedPaths (some "HEAD"))
      (forkedSession (.ended 0 "c.js\n" "")) (by decide +kernel)
    obtain ⟨reports, after, done⟩ := Reader.report_paths_returns Script.parse_aligned Settings.default_supported true
      forkedPaths (some "HEAD") _ _ files selection
    obtain ⟨all, last, changes, whole, ⟨size, each⟩, filtered⟩ :=
      ((restricts _).1 (unshared _) reports).mp ⟨after, done⟩
    obtain ⟨outer, inner, rfl⟩ := List.length_eq_two.mp size
    obtain ⟨_, outerRun⟩ := each 0 (.ofText ".") outer rfl rfl
    obtain ⟨_, innerRun⟩ := each 1 (.ofText "lib") inner rfl rfl
    have outerFiles : ((changedSince (Path.ofText ".").text "HEAD").run.run
      (forkedSession (.ended 0 "c.js\n" ""))).1 = .ok [fileAt ["w", "a.js"]] := by decide +kernel
    have innerFiles : ((changedSince (Path.ofText "lib").text "HEAD").run.run
      { forkedSession (.ended 0 "c.js\n" "") with
        replies := (forkedSession (.ended 0 "c.js\n" "")).replies.drop 3 }).1 =
          .ok [fileAt ["w", "lib", "c.js"]] := by decide +kernel
    cases outerFiles.symm.trans (congrArg Prod.fst outerRun)
    cases innerFiles.symm.trans (congrArg Prod.fst innerRun)
    exact ⟨reports, after, all, last, done, whole, filtered⟩
  · obtain ⟨failure, after, ended, store, _, refusal⟩ := (restricts (.ended 128 "" "no such revision")).2 5 (by decide)
      (show (128 : Int) ≠ 0 by decide)
    exact ⟨failure, after, ended, refusal (by decide +kernel), store⟩

end Rethrow
