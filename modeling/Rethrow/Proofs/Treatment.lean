import Rethrow.Proofs.Acceptance
import Rethrow.Proofs.Alignment
import Rethrow.Proofs.Choice

/-!
What is reported on a file and what is left of it, with repairs and without. Both follow from the content of the file
alone. If nothing is repaired, or no two of the selected paths lead to one file, the reports of a run follow from what
the files hold when it begins.
-/
set_option autoImplicit false

namespace Rethrow

namespace Reader

/-- The report on a file by its content, and the content that a repair leaves. Bytes that are no text are left alone. -/
def repairContent (read : Reader) (settings : Settings) (path : Path) (bytes : Bytes) :
    Except SourceError (Option Report × Bytes) :=
  match Utf8.decode bytes with
  | .error _ => .ok (none, bytes)
  | .ok source => (read.repair settings source path.suffix).map fun result =>
    (some { path, findings := result.remaining, fixed := result.applied }, Utf8.encode result.source)

def inspectContent (read : Reader) (settings : Settings) (path : Path) (bytes : Bytes) :
    Except SourceError (Option Report) :=
  match Utf8.decode bytes with
  | .error _ => .ok none
  | .ok source => (read.analyze settings source path.suffix).map fun findings => some { path, findings }

def treat (read : Reader) (settings : Settings) (fix : Bool) (path : Path) (bytes : Bytes) :
    Except SourceError (Option Report × Bytes) :=
  if fix then read.repairContent settings path bytes
  else (read.inspectContent settings path bytes).map fun report => (report, bytes)

def told (read : Reader) (settings : Settings) (fix : Bool) (store : Store) (path : Path) : Option Report :=
  (store.tree.number? path.parts).bind fun file =>
    (read.treat settings fix path (store.read file)).toOption.bind (·.1)

end Reader

/-- After a session one file holds what it is said to, and all else is as before. -/
structure Session.Rewrites (before after : Session) (file : Nat) (content : Bytes) : Prop where
  directory : after.directory = before.directory
  tree : after.store.tree = before.store.tree
  files : ∀ other, after.store.read other = if other = file then content else before.store.read other

namespace Session

variable {session : Session} {names : Names} {file : Nat}

theorem read_source_file (leads : session.store.tree.number? names = some file) :
    session.readSource (fileAt names) =
      ((Utf8.decode (session.store.read file)).mapError .undecodable).map fun source => (file, source) := by
  obtain ⟨place, found, held⟩ := (Tree.number_iff session.directory names file).mp leads
  simp only [readSource, found, held]

theorem rewrites_self (after : Session) (file : Nat) (store : after.store = session.store)
    (directory : after.directory = session.directory) : session.Rewrites after file (session.store.read file) := by
  refine ⟨directory, by rw [store], fun other => ?_⟩
  rw [store]
  split
  · rename_i same
    rw [same]
  · rfl

theorem rewrites_write (after : Session) (file : Nat) (content : Bytes)
    (store : after.store = session.store.write file content) (directory : after.directory = session.directory) :
    session.Rewrites after file content :=
  ⟨directory, by rw [store]; rfl, fun other => store ▸ session.store.read_write file other content⟩

end Session

namespace Reader

variable {read : Reader} {settings : Settings} {session : Session} {names : Names} {file : Nat} {bytes : Bytes}

-- A path that leads to a file always reaches it, so only its content decides what is reported.
theorem report_file_run (leads : session.store.tree.number? names = some file) (fix : Bool) :
    (read.reportFile settings fix (fileAt names)).run.run session =
      match Utf8.decode (session.store.read file) with
      | .error error =>
        (Run.log (.fileSkipped (fileAt names).text error.message) >>= fun _ => pure none).run.run session
      | .ok source =>
        ((if fix then read.repairFile settings (fileAt names) file source
            else read.analyzeSource settings (fileAt names) source) >>= fun report =>
          Run.log (.unitAnalyzed (fileAt names).text report.findings.length) >>= fun _ =>
            pure (some report)).run.run session := by
  unfold reportFile
  simp only [Tree.number_clean names file leads, Bool.false_eq_true, if_false]
  rw [Run.run_bind_get, session.read_source_file leads]
  cases Utf8.decode (session.store.read file) <;> cases fix <;> rfl

theorem repair_file_run (path : Path) (source : String) :
    (read.repairFile settings path file source).run.run session =
      match read.repair settings source path.suffix with
      | .error error => (.error (.source error), session)
      | .ok result =>
        (.ok { path, findings := result.remaining, fixed := result.applied },
          if result.applied = 0 then session
          else { session.write file result.source with
            events := session.events ++ [.fixesApplied path.text result.applied] }) := by
  unfold repairFile
  rw [Run.run_bind, Run.run_lift]
  cases read.repair settings source path.suffix with
  | error error => rfl
  | ok result => by_cases none : result.applied = 0 <;> simp only [Except.mapError, none, if_true, if_false] <;> rfl

theorem repair_unapplied (source suffix : String) (result : Repair)
    (done : read.repair settings source suffix = .ok result) (none : result.applied = 0) :
    Utf8.encode result.source = Utf8.encode source := by
  obtain ⟨dialect, _, applied, replaced, _⟩ := repair_inversion result done
  rw [List.length_eq_zero_iff.mp (applied.symm.trans none)] at replaced
  exact replaced.no_edits

theorem repair_content_inversion (path : Path) (report : Option Report) (content : Bytes)
    (treated : read.repairContent settings path bytes = .ok (report, content)) :
    (∃ error, Utf8.decode bytes = .error error ∧ report = none ∧ content = bytes) ∨
      ∃ source result, Utf8.decode bytes = .ok source ∧ read.repair settings source path.suffix = .ok result ∧
        report = some { path, findings := result.remaining, fixed := result.applied } ∧
        content = Utf8.encode result.source := by
  cases decoded : Utf8.decode bytes with
  | error error =>
      simp only [repairContent, decoded, Except.ok.injEq, Prod.mk.injEq] at treated
      exact .inl ⟨error, rfl, treated.1.symm, treated.2.symm⟩
  | ok source =>
      cases repaired : read.repair settings source path.suffix with
      | error error => simp [repairContent, decoded, repaired, Except.map] at treated
      | ok result =>
          simp only [repairContent, decoded, repaired, Except.map, Except.ok.injEq, Prod.mk.injEq] at treated
          exact .inr ⟨source, result, rfl, repaired, treated.1.symm, treated.2.symm⟩

theorem report_file_repairs (leads : session.store.tree.number? names = some file) (report : Option Report)
    (content : Bytes)
    (done : read.repairContent settings (fileAt names) (session.store.read file) = .ok (report, content)) :
    ∃ after, (read.reportFile settings true (fileAt names)).run.run session = (.ok report, after) ∧
      session.Rewrites after file content := by
  rw [report_file_run leads]
  obtain ⟨error, decoded, rfl, rfl⟩ | ⟨source, result, decoded, repaired, rfl, rfl⟩ :=
    repair_content_inversion (fileAt names) report content done
  · rw [decoded]
    exact ⟨_, rfl, session.rewrites_self _ file rfl rfl⟩
  · simp only [decoded, if_true, Run.run_bind, repair_file_run, repaired]
    refine ⟨_, rfl, ?_⟩
    by_cases none : result.applied = 0
    · rw [repair_unapplied source _ result repaired none, Utf8.encode_of_decode _ source decoded]
      simp only [none, if_true]
      exact session.rewrites_self _ file rfl rfl
    · simp only [none, if_false]
      exact session.rewrites_write _ file _ rfl rfl

theorem repair_content_returns (aligned : read.Aligned) (path : Path) (dialect : Dialect) (bytes : Bytes)
    (supported : Dialect.ofSuffix? path.suffix = some dialect) :
    ∃ report content, read.repairContent settings path bytes = .ok (report, content) := by
  cases decoded : Utf8.decode bytes with
  | error error => exact ⟨none, bytes, by simp only [repairContent, decoded]⟩
  | ok source =>
      obtain ⟨result, done⟩ : ∃ result, read.repair settings source path.suffix = .ok result :=
        repair_succeeds supported (aligned dialect source)
      refine ⟨some ⟨path, result.remaining, result.applied⟩, Utf8.encode result.source, ?_⟩
      simp only [repairContent, decoded, done, Except.map]

theorem inspect_content_inversion (path : Path) (report : Option Report)
    (inspected : read.inspectContent settings path bytes = .ok report) :
    (∃ error, Utf8.decode bytes = .error error ∧ report = none) ∨
      ∃ source findings, Utf8.decode bytes = .ok source ∧ read.analyze settings source path.suffix = .ok findings ∧
        report = some { path, findings } := by
  cases decoded : Utf8.decode bytes with
  | error error =>
      simp only [inspectContent, decoded, Except.ok.injEq] at inspected
      exact .inl ⟨error, rfl, inspected.symm⟩
  | ok source =>
      cases analyzed : read.analyze settings source path.suffix with
      | error error => simp [inspectContent, decoded, analyzed, Except.map] at inspected
      | ok findings =>
          simp only [inspectContent, decoded, analyzed, Except.map, Except.ok.injEq] at inspected
          exact .inr ⟨source, findings, rfl, analyzed, inspected.symm⟩

theorem report_file_inspects (leads : session.store.tree.number? names = some file) (report : Option Report)
    (inspected : read.inspectContent settings (fileAt names) (session.store.read file) = .ok report) :
    ∃ after, (read.reportFile settings false (fileAt names)).run.run session = (.ok report, after) ∧
      after.store = session.store ∧ after.directory = session.directory := by
  rw [report_file_run leads]
  obtain ⟨error, decoded, rfl⟩ | ⟨source, findings, decoded, analyzed, rfl⟩ :=
    inspect_content_inversion (fileAt names) report inspected
  · rw [decoded]
    exact ⟨_, rfl, rfl, rfl⟩
  · simp only [decoded, Bool.false_eq_true, if_false, analyzeSource, analyzed]
    exact ⟨_, rfl, rfl, rfl⟩

theorem treat_false_inversion (path : Path) (report : Option Report) (content : Bytes)
    (treated : read.treat settings false path bytes = .ok (report, content)) :
    read.inspectContent settings path bytes = .ok report ∧ content = bytes := by
  cases inspected : read.inspectContent settings path bytes with
  | error error => simp [treat, inspected, Except.map] at treated
  | ok told =>
      simp only [treat, inspected, Bool.false_eq_true, if_false, Except.map, Except.ok.injEq, Prod.mk.injEq] at treated
      exact ⟨congrArg _ treated.1, treated.2.symm⟩

theorem treat_path (fix : Bool) (path : Path) (report : Report) (content : Bytes)
    (treated : read.treat settings fix path bytes = .ok (some report, content)) : report.path = path := by
  cases fix with
  | true =>
      obtain ⟨_, _, ⟨⟩, _⟩ | ⟨_, _, _, _, same, _⟩ := repair_content_inversion path (some report) content treated
      cases same
      rfl
  | false =>
      obtain ⟨inspected, _⟩ := treat_false_inversion path (some report) content treated
      obtain ⟨_, _, ⟨⟩⟩ | ⟨_, _, _, _, same⟩ := inspect_content_inversion path (some report) inspected
      cases same
      rfl

theorem treat_returns (settings : Settings) (aligned : read.Aligned) (fix : Bool) (path : Path) (dialect : Dialect)
    (bytes : Bytes) (supported : Dialect.ofSuffix? path.suffix = some dialect) :
    ∃ report content, read.treat settings fix path bytes = .ok (report, content) := by
  cases fix with
  | true => exact repair_content_returns aligned path dialect bytes supported
  | false =>
      cases decoded : Utf8.decode bytes with
      | error error => exact ⟨none, bytes, by simp [treat, inspectContent, decoded, Except.map]⟩
      | ok source =>
          refine ⟨some ⟨path, (read dialect source).findings settings.constructors, 0⟩, bytes, ?_⟩
          simp [treat, inspectContent, decoded, analyze_supported supported, Except.map]

theorem report_file_treats (leads : session.store.tree.number? names = some file) (fix : Bool)
    (report : Option Report) (content : Bytes)
    (treated : read.treat settings fix (fileAt names) (session.store.read file) = .ok (report, content)) :
    ∃ after, (read.reportFile settings fix (fileAt names)).run.run session = (.ok report, after) ∧
      session.Rewrites after file content := by
  cases fix with
  | true => exact report_file_repairs leads report content treated
  | false =>
      obtain ⟨inspected, rfl⟩ := treat_false_inversion (fileAt names) report content treated
      obtain ⟨after, done, store, directory⟩ := report_file_inspects leads report inspected
      exact ⟨after, done, session.rewrites_self after file store directory⟩

theorem told_treated (fix : Bool) (store : Store) (path : Path) (report : Option Report) (content : Bytes)
    (leads : store.tree.number? path.parts = some file)
    (treated : read.treat settings fix path (store.read file) = .ok (report, content)) :
    read.told settings fix store path = report := by
  rw [told, leads, Option.bind_some, treated]
  rfl

theorem told_path (fix : Bool) (store : Store) (path : Path) (report : Report)
    (reported : read.told settings fix store path = some report) : report.path = path := by
  obtain ⟨file, _, reported⟩ := Option.bind_eq_some_iff.mp reported
  obtain ⟨⟨_, content⟩, treated, rfl⟩ := Option.bind_eq_some_iff.mp reported
  cases outcome : read.treat settings fix path (store.read file) with
  | error error => simp [outcome, Except.toOption] at treated
  | ok pair =>
      rw [outcome] at treated
      cases treated
      exact treat_path fix path report content outcome

theorem report_files_returns (settings : Settings) (aligned : read.Aligned) (fix : Bool) (places : List Names)
    (session : Session)
    (present : ∀ names ∈ places, (session.store.tree.number? names).isSome = true ∧
      ∃ dialect, Dialect.ofSuffix? (fileAt names).suffix = some dialect) :
    ∃ reports after, (read.reportFiles settings fix (places.map fileAt)).run.run session = (.ok reports, after) := by
  induction places generalizing session with
  | nil => exact ⟨[], session, rfl⟩
  | cons names rest ih =>
      obtain ⟨reached, dialect, supported⟩ := present names List.mem_cons_self
      obtain ⟨file, leads⟩ := Option.isSome_iff_exists.mp reached
      obtain ⟨report, content, treated⟩ :=
        treat_returns settings aligned fix (fileAt names) dialect (session.store.read file) supported
      obtain ⟨between, step, rewritten⟩ := report_file_treats leads fix report content treated
      obtain ⟨reports, after, later⟩ := ih between fun other held =>
        rewritten.tree ▸ present other (List.mem_cons_of_mem _ held)
      refine ⟨report.toList ++ reports, after, ?_⟩
      rw [List.map_cons, reportFiles, Run.run_bind_ok step, Run.run_bind_ok later]
      rfl

/-- Nothing is repaired, or no two of the paths lead to one file. -/
def Unshared (fix : Bool) (tree : Tree) (files : List Path) : Prop :=
  fix = false ∨ files.Pairwise fun left right => tree.number? left.parts ≠ tree.number? right.parts

theorem Unshared.filter {fix : Bool} {tree : Tree} {files : List Path} (unshared : Unshared fix tree files)
    (keep : Path → Bool) : Unshared fix tree (files.filter keep) :=
  unshared.imp_right fun apart => apart.sublist List.filter_sublist

-- Each file is read as the session found it, since nothing is written or no file comes twice.
theorem report_files_tells (settings : Settings) (aligned : read.Aligned) (fix : Bool) (places : List Names)
    (session : Session) (unshared : Unshared fix session.store.tree (places.map fileAt))
    (present : ∀ names ∈ places, (session.store.tree.number? names).isSome = true ∧
      ∃ dialect, Dialect.ofSuffix? (fileAt names).suffix = some dialect) :
    ∃ after, (read.reportFiles settings fix (places.map fileAt)).run.run session =
      (.ok ((places.map fileAt).filterMap (read.told settings fix session.store)), after) := by
  induction places generalizing session with
  | nil => exact ⟨session, rfl⟩
  | cons names rest ih =>
      obtain ⟨reached, dialect, supported⟩ := present names List.mem_cons_self
      obtain ⟨file, leads⟩ := Option.isSome_iff_exists.mp reached
      obtain ⟨report, content, treated⟩ :=
        treat_returns settings aligned fix (fileAt names) dialect (session.store.read file) supported
      obtain ⟨between, step, rewritten⟩ := report_file_treats leads fix report content treated
      have later : Unshared fix between.store.tree (rest.map fileAt) := by
        rw [rewritten.tree]
        exact unshared.imp_right fun apart => (List.pairwise_cons.mp apart).2
      obtain ⟨after, loop⟩ := ih between later fun other held =>
        rewritten.tree ▸ present other (List.mem_cons_of_mem _ held)
      have kept : ∀ other ∈ rest, ∀ number, session.store.tree.number? other = some number →
          between.store.read number = session.store.read number := by
        intro other held number found
        rw [rewritten.files]
        split
        · rename_i same
          rcases unshared with rfl | apart
          · rw [(treat_false_inversion _ _ _ treated).2, same]
          · refine absurd ?_ ((List.pairwise_cons.mp apart).1 _ (List.mem_map_of_mem held))
            exact leads.trans (same ▸ found.symm)
        · rfl
      have others : (rest.map fileAt).filterMap (read.told settings fix between.store) =
          (rest.map fileAt).filterMap (read.told settings fix session.store) := by
        refine List.filterMap_congr fun path listed => ?_
        obtain ⟨other, held, rfl⟩ := List.mem_map.mp listed
        rw [told, told, rewritten.tree]
        cases found : session.store.tree.number? (fileAt other).parts with
        | none => rfl
        | some number => rw [Option.bind_some, Option.bind_some, kept other held number found]
      refine ⟨after, ?_⟩
      rw [List.map_cons, reportFiles, Run.run_bind_ok step, Run.run_bind_ok loop, others, List.filterMap_cons,
        told_treated fix session.store (fileAt names) report content leads treated]
      cases report <;> rfl

theorem report_paths_returns (aligned : read.Aligned) (supported : settings.Supported) (fix : Bool)
    (paths : List Path) (revision : Option String) (session between : Session) (files : List Path)
    (selection : (Run.selectFiles settings paths revision).run.run session = (.ok files, between)) :
    ∃ reports after, (read.reportPaths settings fix paths revision).run.run session = (.ok reports, after) := by
  obtain ⟨store, _, places, rfl, present⟩ :=
    Run.select_files_places settings paths revision session between files selection
  rw [reportPaths, Run.run_bind_ok selection]
  refine report_files_returns settings aligned fix places between fun names held => ?_
  exact ⟨store ▸ (present names held).1, supported.dialect _ (present names held).2⟩

theorem report_paths_tells (aligned : read.Aligned) (supported : settings.Supported) (fix : Bool) (paths : List Path)
    (revision : Option String) (session between : Session) (files : List Path)
    (unshared : Unshared fix session.store.tree files)
    (selection : (Run.selectFiles settings paths revision).run.run session = (.ok files, between)) :
    ∃ after, (read.reportPaths settings fix paths revision).run.run session =
      (.ok (files.filterMap (read.told settings fix session.store)), after) := by
  obtain ⟨store, _, places, rfl, present⟩ :=
    Run.select_files_places settings paths revision session between files selection
  obtain ⟨after, loop⟩ := report_files_tells settings aligned fix places between (store ▸ unshared)
    fun names held => ⟨store ▸ (present names held).1, supported.dialect _ (present names held).2⟩
  rw [reportPaths, Run.run_bind_ok selection, loop, store]
  exact ⟨after, rfl⟩

-- With settings that were accepted, a run ends early only while it selects the files.
theorem report_paths_failure (aligned : read.Aligned) (supported : settings.Supported) (fix : Bool)
    (paths : List Path) (revision : Option String) (session after : Session) (failure : Failure)
    (ended : (read.reportPaths settings fix paths revision).run.run session = (.error failure, after)) :
    (Run.selectFiles settings paths revision).run.run session = (.error failure, after) := by
  rcases selection : (Run.selectFiles settings paths revision).run.run session with ⟨other | files, between⟩
  · rw [reportPaths, Run.run_bind_error selection] at ended
    cases ended
    rfl
  · obtain ⟨_, _, told⟩ := report_paths_returns aligned supported fix paths revision session between files selection
    rw [told] at ended
    cases ended

end Reader
end Rethrow
