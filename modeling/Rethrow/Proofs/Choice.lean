import Rethrow.Proofs.Inquiry
import Rethrow.Proofs.Whereabouts

/-!
The files that a run selects. They follow from the paths, the tree and the replies alone, and whatever is wrong with
any of these ends the run before a file is read.
-/
set_option autoImplicit false

namespace Rethrow

def Session.places (session : Session) (paths : List Path) : List Path :=
  paths.filterMap fun path => (session.store.tree.find? session.directory path).map fileAt

namespace Run

theorem resolve_run (path : Path) (session : Session) :
    (resolve path).run.run session = (session.resolve path, session) := by
  unfold resolve
  rw [run_bind_get, run_lift]

theorem resolve_each_run (paths : List Path) (session : Session) :
    (paths.mapM resolve).run.run session = (paths.mapM session.resolve, session) := by
  induction paths with
  | nil => rfl
  | cons path rest ih =>
      rw [List.mapM_cons, List.mapM_cons, run_bind, resolve_run]
      cases session.resolve path with
      | error failure => rfl
      | ok place =>
          dsimp only
          rw [run_bind, ih]
          cases rest.mapM session.resolve <;> rfl

theorem resolve_each_found (paths : List Path) (session : Session)
    (existing : ∀ path ∈ paths, session.store.tree.find? session.directory path ≠ none) :
    paths.mapM session.resolve = .ok (session.places paths) := by
  induction paths with
  | nil => rfl
  | cons path rest ih =>
      obtain ⟨place, found⟩ := Option.ne_none_iff_exists'.mp (existing path List.mem_cons_self)
      rw [List.mapM_cons, session.resolve_found path place found,
        ih fun other member => existing other (List.mem_cons_of_mem _ member), Session.places, Session.places,
        List.filterMap_cons, found]
      rfl

theorem discover_files_found (settings : Settings) (paths : List Path) (session : Session)
    (existing : ∀ path ∈ paths, session.store.tree.find? session.directory path ≠ none) :
    (discoverFiles settings paths).run.run session =
      (.ok (discover settings session.store.tree (session.places paths)), session) := by
  have resolved := resolve_each_run paths session
  rw [resolve_each_found paths session existing] at resolved
  unfold discoverFiles
  rw [run_bind_ok resolved, run_bind_get]
  rfl

def chosen (settings : Settings) (paths : List Path) (session : Session) : Except Failure (List Path) :=
  match paths.find? fun path => (session.store.tree.find? session.directory path).isNone with
  | some path => .error (.missingPath path)
  | none => .ok (discover settings session.store.tree (session.places paths))

theorem chosen_congr (settings : Settings) (paths : List Path) (left right : Session)
    (tree : left.store.tree = right.store.tree) (directory : left.directory = right.directory) :
    chosen settings paths left = chosen settings paths right := by
  simp only [chosen, Session.places, directory, tree]

theorem chosen_refusal (settings : Settings) (paths : List Path) (session : Session) (failure : Failure)
    (failed : chosen settings paths session = .error failure) : failure.Refusal := by
  unfold chosen at failed
  split at failed <;> cases failed
  exact .missingPath _

theorem select_files_found (settings : Settings) (paths : List Path) (session : Session)
    (existing : ∀ path ∈ paths, session.store.tree.find? session.directory path ≠ none) :
    (selectFiles settings paths none).run.run session =
      (.ok (discover settings session.store.tree (session.places paths)), session) := by
  have present : paths.find? (fun path => (session.store.tree.find? session.directory path).isNone) = none := by
    rw [List.find?_eq_none]
    exact fun path member none => existing path member (Option.isNone_iff_eq_none.mp none)
  unfold selectFiles
  rw [run_bind_get, present]
  dsimp only
  rw [run_bind_ok (discover_files_found settings paths session existing)]
  rfl

theorem select_files_run (settings : Settings) (paths : List Path) (session : Session) :
    (selectFiles settings paths none).run.run session = (chosen settings paths session, session) := by
  unfold chosen
  cases lost : paths.find? fun path => (session.store.tree.find? session.directory path).isNone with
  | some path =>
      unfold selectFiles
      rw [run_bind_get, lost]
      rfl
  | none =>
      refine select_files_found settings paths session fun path member none => ?_
      exact List.find?_eq_none.mp lost path member (Option.isNone_iff_eq_none.mpr none)

theorem select_files_returned (settings : Settings) (paths : List Path) (session after : Session) (files : List Path)
    (done : (selectFiles settings paths none).run.run session = (.ok files, after)) :
    session = after ∧ files = discover settings session.store.tree (session.places paths) := by
  rw [select_files_run] at done
  obtain ⟨found, rfl⟩ := Prod.mk.inj done
  refine ⟨rfl, ?_⟩
  unfold chosen at found
  split at found <;> cases found
  rfl

theorem select_files_restricted (settings : Settings) (paths : List Path) (revision : String) :
    selectFiles settings paths (some revision) =
      selectFiles settings paths none >>= fun files =>
        changedAround revision paths >>= fun changed => pure (files.filter changed.contains) := by
  unfold selectFiles
  rw [bind_assoc]
  refine bind_congr fun session => ?_
  split
  · rfl
  · rw [bind_assoc]
    refine bind_congr fun files => ?_
    dsimp only
    rw [pure_bind]

theorem select_files_restricted_iff (settings : Settings) (paths : List Path) (revision : String) (session : Session)
    (files : List Path) :
    (∃ after, (selectFiles settings paths (some revision)).run.run session = (.ok files, after)) ↔
      ∃ found changes, (selectFiles settings paths none).run.run session = (.ok found, session) ∧
        session.Changes revision paths changes ∧ files = found.filter changes.flatten.contains := by
  rw [select_files_restricted]
  constructor
  · rintro ⟨after, done⟩
    obtain ⟨found, between, first, done⟩ := bind_inversion done
    obtain ⟨changed, _, asked, done⟩ := bind_inversion done
    cases done
    obtain ⟨rfl, _⟩ := select_files_returned settings paths session between found first
    obtain ⟨changes, listed, rfl⟩ := (changed_around_iff revision paths session changed).mp ⟨_, asked⟩
    exact ⟨found, changes, first, listed, rfl⟩
  · rintro ⟨found, changes, first, listed, rfl⟩
    obtain ⟨after, asked⟩ := (changed_around_iff revision paths session changes.flatten).mpr ⟨changes, listed, rfl⟩
    refine ⟨after, ?_⟩
    rw [run_bind_ok first, run_bind_ok asked]
    rfl

theorem select_files_settles (settings : Settings) (paths : List Path) (revision : String) :
    Settles (selectFiles settings paths (some revision)) (3 * paths.length) := by
  have discovers : Settles (selectFiles settings paths none) 0 := by
    refine ⟨fun session files after done => ?_, fun session failure after done => ?_, fun left right same => ?_⟩
    · rw [select_files_run] at done
      obtain ⟨_, rfl⟩ := Prod.mk.inj done
      exact ⟨.refl session, by simp⟩
    · rw [select_files_run] at done
      obtain ⟨failed, rfl⟩ := Prod.mk.inj done
      exact ⟨⟨0, .refl session⟩, .inl (chosen_refusal settings paths session failure failed)⟩
    · rw [select_files_run, select_files_run]
      exact chosen_congr settings paths left right (by rw [same.store]) same.directory.symm
  have asks : Settles (selectFiles settings paths (some revision)) (0 + (3 * paths.length + 0)) := by
    rw [select_files_restricted]
    exact settles_bind discovers fun _ => settles_bind (changed_around_settles revision paths) fun _ => settles_pure _
  rwa [Nat.zero_add, Nat.add_zero] at asks

theorem select_files_keeps (settings : Settings) (paths : List Path) (revision : Option String) :
    Keeps (selectFiles settings paths revision) := by
  cases revision with
  | none =>
      intro session
      rw [select_files_run]
      exact ⟨rfl, rfl⟩
  | some since => exact (select_files_settles settings paths since).keeps

theorem select_files_ended (settings : Settings) (paths : List Path) (revision : Option String)
    (session after : Session) (failure : Failure)
    (ended : (selectFiles settings paths revision).run.run session = (.error failure, after)) :
    after.store = session.store ∧ (failure.Refusal ∨ failure = .gitMissing) := by
  cases revision with
  | none =>
      rw [select_files_run] at ended
      obtain ⟨failed, rfl⟩ := Prod.mk.inj ended
      exact ⟨rfl, .inl (chosen_refusal settings paths session failure failed)⟩
  | some since =>
      obtain ⟨⟨_, asked⟩, reason⟩ := (select_files_settles settings paths since).ended session failure after ended
      exact ⟨asked.store, reason.imp_right And.left⟩

/-- A path is selected if it is discovered and, with a revision, among those listed as changed since. -/
def Selected (settings : Settings) (paths : List Path) (revision : Option String) (session : Session)
    (file : Path) : Prop :=
  file ∈ discover settings session.store.tree (session.places paths) ∧
    ∀ since ∈ revision, ∃ changed after,
      (changedAround since paths).run.run session = (.ok changed, after) ∧ file ∈ changed

theorem select_files_inversion (settings : Settings) (paths : List Path) (revision : Option String)
    (session after : Session) (files : List Path)
    (done : (selectFiles settings paths revision).run.run session = (.ok files, after)) :
    files.Sublist (discover settings session.store.tree (session.places paths)) ∧
      ∀ file, file ∈ files ↔ Selected settings paths revision session file := by
  cases revision with
  | none =>
      obtain ⟨_, rfl⟩ := select_files_returned settings paths session after files done
      exact ⟨List.Sublist.refl _, fun file => by simp [Selected]⟩
  | some since =>
      rw [select_files_restricted] at done
      obtain ⟨found, _, first, done⟩ := bind_inversion done
      obtain ⟨rfl, rfl⟩ := select_files_returned settings paths session _ found first
      obtain ⟨changed, _, asked, done⟩ := bind_inversion done
      cases done
      refine ⟨List.filter_sublist, fun file => ?_⟩
      rw [List.mem_filter, List.contains_iff_mem]
      constructor
      · rintro ⟨held, listed⟩
        refine ⟨held, fun other same => ?_⟩
        cases same
        exact ⟨changed, _, asked, listed⟩
      · rintro ⟨held, restricted⟩
        obtain ⟨other, _, again, listed⟩ := restricted since rfl
        rw [asked] at again
        cases again
        exact ⟨held, listed⟩

theorem select_files_places (settings : Settings) (paths : List Path) (revision : Option String)
    (session after : Session) (files : List Path)
    (done : (selectFiles settings paths revision).run.run session = (.ok files, after)) :
    after.store = session.store ∧ after.directory = session.directory ∧
      ∃ places : List Names, files = places.map fileAt ∧ ∀ names ∈ places,
        (session.store.tree.number? names).isSome = true ∧ settings.accepts (fileAt names).suffix = true := by
  have kept := select_files_keeps settings paths revision session
  rw [done] at kept
  obtain ⟨part, _⟩ := select_files_inversion settings paths revision session after files done
  refine ⟨kept.1, kept.2, files.map (·.parts), ?_, ?_⟩
  · rw [List.map_map]
    refine ((List.map_congr_left fun file held => ?_).trans (List.map_id files)).symm
    obtain ⟨names, rfl, _⟩ := discover_file file (part.subset held)
    rfl
  · intro names member
    obtain ⟨file, held, rfl⟩ := List.mem_map.mp member
    obtain ⟨names, rfl, present, accepted⟩ := discover_file file (part.subset held)
    exact ⟨present, accepted⟩

end Run

end Rethrow
