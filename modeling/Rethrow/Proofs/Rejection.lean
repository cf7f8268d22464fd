import Rethrow.Command.Run
import Rethrow.Proofs.Rewriting

/-!
A run that ends with the code for invalid input has changed no file: whatever can be wrong with the arguments, the
configuration or the replies of the version control program shows before the first file is written.
-/
set_option autoImplicit false

namespace Rethrow.Command

variable {read : Reader} {options : Options} {time : String} {session after : Session} {outcome : Outcome}

theorem execute_inversion (done : (execute read options time).run.run session = (.ok outcome, after)) :
    ∃ places, (options.paths.map Path.ofText).mapM session.resolve = .ok places ∧
      ((∃ path, places.find? (fun path => (session.store.tree.reach? path.parts).isNone) = some path ∧
          outcome = .ofFailure "" (.missingPath path) ∧ after = session) ∨
        places.find? (fun path => (session.store.tree.reach? path.parts).isNone) = none ∧ ∃ log,
          ((∃ found, (reports read options places).run.run session = (.ok found, after) ∧
              outcome = .ofReports options log found) ∨
            ∃ failure, (reports read options places).run.run session = (.error failure, after) ∧
              outcome = .ofFailure log failure)) := by
  unfold execute at done
  obtain ⟨places, _, resolved, done⟩ := Run.bind_inversion done
  rw [Run.resolve_each_run] at resolved
  obtain ⟨given, rfl⟩ := Prod.mk.inj resolved
  obtain ⟨_, _, got, done⟩ := Run.bind_inversion done
  cases got
  refine ⟨places, given, ?_⟩
  split at done
  · rename_i path found
    cases done
    exact .inl ⟨path, found, rfl, rfl⟩
  · rename_i present
    rcases run : (reports read options places).run.run session with ⟨failure | found, later⟩
    · rw [run] at done
      cases done
      exact .inr ⟨present, _, .inr ⟨failure, rfl, rfl⟩⟩
    · rw [run] at done
      cases done
      exact .inr ⟨present, _, .inl ⟨found, rfl, rfl⟩⟩

theorem settings_keeps (options : Options) : Run.Keeps options.settings :=
  Run.keeps_bind Run.keeps_get fun session =>
    Run.keeps_bind (Configuration.load_keeps session.directory options.config) fun _ => Run.keeps_pure _

theorem settings_inversion (options : Options) (session after : Session) (settings : Settings)
    (done : options.settings.run.run session = (.ok settings, after)) :
    ∃ base, (Configuration.load session.directory options.config).run.run session = (.ok base, after) ∧
      settings = base.withConstructors options.constructors := by
  rw [Options.settings, Run.run_bind_get] at done
  obtain ⟨base, between, loaded, done⟩ := Run.bind_inversion done
  cases done
  exact ⟨base, loaded, rfl⟩

theorem settings_supported (options : Options) (session after : Session) (settings : Settings)
    (done : options.settings.run.run session = (.ok settings, after)) : settings.Supported := by
  obtain ⟨base, loaded, rfl⟩ := settings_inversion options session after settings done
  exact Settings.with_constructors_supported (Configuration.load_supported _ _ _ _ base loaded) options.constructors

-- The configuration is read and the files are selected before any file is written, and nothing fails after that.
theorem reports_failure (aligned : read.Aligned) (paths : List Path) (failure : Failure)
    (ended : (reports read options paths).run.run session = (.error failure, after)) :
    after.store = session.store := by
  have kept := settings_keeps options session
  rcases loaded : options.settings.run.run session with ⟨other | settings, between⟩
  · rw [reports, Run.run_bind_error loaded] at ended
    rw [loaded] at kept
    cases ended
    exact kept.1
  · rw [reports, Run.run_bind_ok loaded] at ended
    rw [loaded] at kept
    have early := Reader.report_paths_failure aligned (settings_supported options session between settings loaded)
      options.fix paths options.changedSince between after failure ended
    exact (Run.select_files_ended _ paths options.changedSince between after failure early).1.trans kept.1

theorem rejected_run_keeps_files (read : Reader) (aligned : read.Aligned) (session after : Session)
    (arguments : List String) (time : String) (outcome : Outcome)
    (done : (runWith read arguments time).run.run session = (.ok outcome, after)) (rejected : outcome.exitCode = 2) :
    after.store = session.store := by
  unfold runWith at done
  split at done
  · cases done
    rfl
  · obtain ⟨_, _, ⟨_, _, _, rfl⟩ | ⟨_, log, ⟨found, _, rfl⟩ | ⟨failure, ended, _⟩⟩⟩ := execute_inversion done
    · rfl
    · -- A run that reports ends with 0 or 1.
      simp only [Outcome.ofReports] at rejected
      split at rejected <;> cases rejected
    · exact reports_failure aligned _ failure ended

def strayArguments : List String := ["analyze", "--fix", "--changed-since", "HEAD", "a.js", "lib"]

def straySession : Session :=
  { directory := ⟨.root, ["w"]⟩
    store :=
      { tree := { files := [(["w", "a.js"], 0), (["w", "lib", "b.js"], 1)] }
        contents := [(0, Utf8.encode wideSource), (1, Utf8.encode wideSource)] }
    replies := [.ended 0 "/w\n" "", .ended 0 "a.js\n" "", .ended 0 "" "", .ended 128 "" "not a work tree"] }

theorem stray_path_rejected :
    ∃ after, (run strayArguments "").run.run straySession =
        (.ok ⟨2, "", "Error: Not a Git repository: /w/lib\n"⟩, after) ∧
      after.store = straySession.store := by
  have told : ((run strayArguments "").run.run straySession).1 =
      .ok ⟨2, "", "Error: Not a Git repository: /w/lib\n"⟩ := by decide +kernel
  obtain ⟨after, done⟩ := (Run.returns_iff _ _ _).mpr told
  exact ⟨after, done,
    rejected_run_keeps_files Script.parse Script.parse_aligned straySession after strayArguments "" _ done rfl⟩

end Rethrow.Command
