import Rethrow.Proofs.Keeping

/-!
Questions to the version control program. A part of a run that returns has asked a fixed number of questions, each of
which was answered, and has changed nothing but the replies to come and the record of the questions. What it comes to
follows from the files, the current directory and the replies alone.
-/
set_option autoImplicit false

namespace Rethrow

def Reply.Answers (reply : Option Reply) : Prop := ∃ output errors, reply = some (.ended 0 output errors)

/-- The program ended with another code; that is also what it does when no reply is left. -/
def Reply.Refuses : Option Reply → Prop
  | none => True
  | some .missing => False
  | some (.ended code _ _) => code ≠ 0

/-- What is wrong lies in the paths or in what the program answers. -/
inductive Failure.Refusal : Failure → Prop
  | nullByte : Refusal .nullByte
  | linkLoop (path : Path) : Refusal (.linkLoop path)
  | missingPath (path : Path) : Refusal (.missingPath path)
  | notRepository (given : String) : Refusal (.notRepository given)
  | queryFailed (arguments : List String) (errors : String) : Refusal (.queryFailed arguments errors)

/-- All questions were answered up to one for which the program could not be started. -/
def Reply.Halts (replies : List Reply) : Prop :=
  ∃ index : Nat, replies[index]? = some .missing ∧ ∀ earlier < index, Answers replies[earlier]?

theorem Reply.Refuses.not_answers {reply : Option Reply} (refuses : Refuses reply) : ¬ Answers reply := by
  rintro ⟨output, errors, rfl⟩
  exact refuses rfl

-- A refused question is not passed over: a program that cannot be started would have been asked before it.
theorem Reply.Refuses.halted {replies : List Reply} {index : Nat} (refuses : Refuses replies[index]?)
    (halts : Halts replies) : ∃ earlier < index, replies[earlier]? = some .missing := by
  obtain ⟨stop, missing, answered⟩ := halts
  rcases Nat.lt_trichotomy stop index with before | rfl | after
  · exact ⟨stop, before, missing⟩
  · rw [missing] at refuses
    exact refuses.elim
  · exact absurd (answered index after) refuses.not_answers

/-- Some replies were taken, and nothing was written or logged. -/
structure Session.Asked (before : Session) (count : Nat) (after : Session) : Prop where
  store : after.store = before.store
  directory : after.directory = before.directory
  events : after.events = before.events
  replies : after.replies = before.replies.drop count

namespace Session.Asked

variable {first second third : Session} {m n : Nat}

theorem refl (session : Session) : session.Asked 0 session := ⟨rfl, rfl, rfl, rfl⟩

theorem trans (left : first.Asked m second) (right : second.Asked n third) : first.Asked (m + n) third :=
  ⟨right.store.trans left.store, right.directory.trans left.directory, right.events.trans left.events,
    by rw [right.replies, left.replies, List.drop_drop]⟩

theorem reply (asked : first.Asked m second) (index : Nat) : second.replies[index]? = first.replies[m + index]? := by
  rw [asked.replies, List.getElem?_drop]

theorem both {other last : Session} (same : first.Asked 0 other) (left : first.Asked m second)
    (right : other.Asked m last) : second.Asked 0 last :=
  ⟨by rw [right.store, same.store, left.store], by rw [right.directory, same.directory, left.directory],
    by rw [right.events, same.events, left.events], by rw [right.replies, same.replies, left.replies]; rfl⟩

end Session.Asked

namespace Run

variable {α β : Type}

/-- A result is settled if the part has been answered for good; of the others only the end of the run may follow. -/
structure Inquires (part : Run α) (count : Nat) (settled : α → Prop) : Prop where
  returned : ∀ session value after, part.run.run session = (.ok value, after) →
    session.Asked count after ∧ (settled value → ∀ index < count, Reply.Answers session.replies[index]?)
  ended : ∀ session failure after, part.run.run session = (.error failure, after) →
    (∃ asked, session.Asked asked after) ∧
      (failure.Refusal ∨ failure = .gitMissing ∧ Reply.Halts session.replies)
  determined : ∀ left right : Session, left.Asked 0 right → (part.run.run left).1 = (part.run.run right).1

def Settles (part : Run α) (count : Nat) : Prop := Inquires part count fun _ => True

theorem Settles.keeps {part : Run α} {count : Nat} (settles : Settles part count) : Keeps part := by
  intro session
  rcases step : part.run.run session with ⟨failure | value, after⟩
  · obtain ⟨⟨_, asked⟩, _⟩ := settles.ended session failure after step
    exact ⟨asked.store, asked.directory⟩
  · obtain ⟨asked, _⟩ := settles.returned session value after step
    exact ⟨asked.store, asked.directory⟩

theorem settles_lift (result : Except Failure α) (refusal : ∀ failure, result = .error failure → failure.Refusal) :
    Settles (liftM result : Run α) 0 := by
  refine ⟨fun session value after done => ?_, fun session failure after done => ?_, fun left right _ => ?_⟩
  · rw [run_lift] at done
    cases done
    exact ⟨.refl session, by simp⟩
  · rw [run_lift] at done
    obtain ⟨failed, rfl⟩ := Prod.mk.inj done
    exact ⟨⟨0, .refl session⟩, .inl (refusal failure failed)⟩
  · rw [run_lift, run_lift]

theorem settles_pure (value : α) : Settles (pure value : Run α) 0 := settles_lift (.ok value) (by simp)

theorem answers_later {first between : Session} {m n : Nat} (asked : first.Asked m between)
    (early : ∀ index < m, Reply.Answers first.replies[index]?)
    (late : ∀ index < n, Reply.Answers between.replies[index]?) :
    ∀ index < m + n, Reply.Answers first.replies[index]? := by
  intro index bound
  by_cases before : index < m
  · exact early index before
  · have reply := late (index - m) (by omega)
    rwa [asked.reply, Nat.add_sub_cancel' (Nat.le_of_not_lt before)] at reply

theorem inquires_bind {first : Run α} {next : α → Run β} {m n : Nat} {settled : α → Prop} {done : β → Prop}
    (asks : Inquires first m settled) (later : ∀ value, settled value → Inquires (next value) n done)
    (refused : ∀ value, ¬ settled value → ∃ failure : Failure, failure.Refusal ∧ next value = throw failure) :
    Inquires (first >>= next) (m + n) done := by
  refine ⟨fun session value after run => ?_, fun session failure after run => ?_, fun left right same => ?_⟩
  · obtain ⟨middle, between, step, run⟩ := bind_inversion run
    obtain ⟨asked, answered⟩ := asks.returned session middle between step
    by_cases good : settled middle
    · obtain ⟨askedLater, answeredLater⟩ := (later middle good).returned between value after run
      exact ⟨asked.trans askedLater, fun final => answers_later asked (answered good) (answeredLater final)⟩
    · obtain ⟨failure, _, thrown⟩ := refused middle good
      rw [thrown] at run
      cases run
  · rcases step : first.run.run session with ⟨other | middle, between⟩
    · rw [run_bind_error step] at run
      cases run
      exact asks.ended session failure after step
    · rw [run_bind_ok step] at run
      obtain ⟨asked, answered⟩ := asks.returned session middle between step
      by_cases good : settled middle
      · obtain ⟨⟨count, askedLater⟩, reason⟩ := (later middle good).ended between failure after run
        refine ⟨⟨m + count, asked.trans askedLater⟩, reason.imp_right ?_⟩
        rintro ⟨missing, index, held, before⟩
        exact ⟨missing, m + index, by rw [← asked.reply, held], answers_later asked (answered good) before⟩
      · obtain ⟨other, refusal, thrown⟩ := refused middle good
        rw [thrown] at run
        cases run
        exact ⟨⟨m, asked⟩, .inl refusal⟩
  · have result := asks.determined left right same
    rw [run_bind, run_bind]
    rcases leftStep : first.run.run left with ⟨failure | middle, leftBetween⟩ <;>
      rcases rightStep : first.run.run right with ⟨other | value, rightBetween⟩ <;>
        rw [leftStep, rightStep] at result <;> cases result
    · rfl
    · have agree := same.both (asks.returned _ _ _ leftStep).1 (asks.returned _ _ _ rightStep).1
      by_cases good : settled middle
      · exact (later middle good).determined leftBetween rightBetween agree
      · obtain ⟨failure, _, thrown⟩ := refused middle good
        simp only [thrown]
        rfl

theorem settles_bind {first : Run α} {next : α → Run β} {m n : Nat} (asks : Settles first m)
    (later : ∀ value, Settles (next value) n) : Settles (first >>= next) (m + n) :=
  inquires_bind asks (fun value _ => later value) fun _ unsettled => absurd trivial unsettled

theorem settles_get {next : Session → Run α} {count : Nat} (later : ∀ session, Settles (next session) count)
    (same : ∀ left right : Session, left.Asked 0 right → next left = next right) :
    Settles (get >>= next) count := by
  refine ⟨fun session => (later session).returned session, fun session => (later session).ended session, ?_⟩
  intro left right agree
  rw [run_bind_get, run_bind_get, same left right agree]
  exact (later right).determined left right agree

theorem settles_map_m {part : α → Run β} (items : List α) (each : ∀ item, Settles (part item) 0) :
    Settles (items.mapM part) 0 := by
  induction items with
  | nil => exact settles_pure _
  | cons item rest ih =>
      rw [List.mapM_cons]
      exact settles_bind (each item) fun _ => settles_bind ih fun _ => settles_pure _

theorem resolve_refusal (session : Session) (path : Path) (failure : Failure)
    (failed : session.resolve path = .error failure) : failure.Refusal := by
  unfold Session.resolve at failed
  split at failed
  · cases failed
    exact .nullByte
  · split at failed <;> cases failed
    exact .linkLoop _

theorem resolve_settles (path : Path) : Settles (resolve path) 0 := by
  refine settles_get (fun session => settles_lift _ (resolve_refusal session path)) fun left right agree => ?_
  rw [Session.resolve, Session.resolve, agree.store, agree.directory]

theorem ask_run (arguments : List String) (directory : Path) (session : Session) :
    ∃ after, session.Asked 1 after ∧ (ask arguments directory).run.run session =
      (match session.replies.head? with
        | some .missing => .error .gitMissing
        | some (.ended code output errors) => .ok (code, output, errors)
        | none => .ok (128, "", ""), after) := by
  refine ⟨{ session with calls := session.calls ++ [⟨arguments, directory⟩], replies := session.replies.tail }, ?_, ?_⟩
  · exact ⟨rfl, rfl, rfl, by rw [List.drop_one]⟩
  · obtain ⟨_, _, replies, _, _⟩ := session
    rcases replies with _ | ⟨_ | _, _⟩ <;> rfl

theorem ask_inquires (arguments : List String) (directory : Path) :
    Inquires (ask arguments directory) 1 fun answer => answer.1 = 0 := by
  refine ⟨fun session value after done => ?_, fun session failure after done => ?_, fun left right same => ?_⟩
  · obtain ⟨last, asked, step⟩ := ask_run arguments directory session
    rw [done] at step
    obtain ⟨result, rfl⟩ := Prod.mk.inj step
    refine ⟨asked, fun zero index bound => ?_⟩
    obtain rfl : index = 0 := by omega
    rw [Reply.Answers, ← List.head?_eq_getElem?]
    generalize session.replies.head? = reply at result
    rcases reply with _ | _ | ⟨code, output, errors⟩ <;> cases result
    · cases zero
    · cases zero
      exact ⟨output, errors, rfl⟩
  · obtain ⟨last, asked, step⟩ := ask_run arguments directory session
    rw [done] at step
    obtain ⟨result, rfl⟩ := Prod.mk.inj step
    refine ⟨⟨1, asked⟩, .inr ?_⟩
    rcases held : session.replies.head? with _ | _ | ⟨code, output, errors⟩ <;> rw [held] at result <;> cases result
    exact ⟨rfl, 0, by rw [← held, List.head?_eq_getElem?], by simp⟩
  · obtain ⟨_, _, leftStep⟩ := ask_run arguments directory left
    obtain ⟨_, _, rightStep⟩ := ask_run arguments directory right
    have replies : right.replies = left.replies := same.replies
    rw [leftStep, rightStep, replies]

end Run

open Run

namespace Repository

theorem locate_settles (given : String) : Settles (locate given) 1 := by
  unfold locate
  change Settles _ (0 + (1 + (0 + 0)))
  refine settles_bind (resolve_settles _) fun path => settles_get (fun session => ?_) fun left right agree => ?_
  · refine inquires_bind (ask_inquires _ _) (fun answer zero => ?_) fun answer other => ?_
    · obtain ⟨code, output, errors⟩ := answer
      cases zero
      exact settles_bind (resolve_settles _) fun _ => settles_pure _
    · obtain ⟨code, output, errors⟩ := answer
      refine ⟨_, .notRepository given, ?_⟩
      dsimp only
      rw [if_pos other]
      rfl
  · rw [agree.store]

theorem query_settles (repository : Repository) (arguments : List String) :
    Settles (repository.query arguments) 1 := by
  unfold query
  change Inquires _ (1 + 0) _
  refine inquires_bind (ask_inquires _ _) (fun answer zero => ?_) fun answer other => ?_
  · obtain ⟨code, output, errors⟩ := answer
    cases zero
    exact settles_pure _
  · obtain ⟨code, output, errors⟩ := answer
    refine ⟨_, .queryFailed arguments errors, ?_⟩
    dsimp only
    rw [if_pos other]
    rfl

theorem changed_files_settles (repository : Repository) (revision : String) :
    Settles (repository.changedFiles revision) 2 :=
  settles_bind (query_settles _ _) fun _ => settles_bind (query_settles _ _) fun _ =>
    settles_bind (settles_map_m _ fun _ => resolve_settles _) fun _ =>
      settles_bind (settles_map_m _ fun _ => resolve_settles _) fun _ => settles_pure _

end Repository

theorem changed_since_settles (given revision : String) : Settles (changedSince given revision) 3 :=
  settles_bind (Repository.locate_settles given) fun repository => repository.changed_files_settles revision

/-- The files that changed in the work tree around each path. Each path takes three replies. -/
structure Session.Changes (session : Session) (revision : String) (paths : List Path) (changes : List (List Path)) :
    Prop where
  size : changes.length = paths.length
  each : ∀ (index : Nat) path files, paths[index]? = some path → changes[index]? = some files →
    ∃ later, (changedSince path.text revision).run.run
      { session with replies := session.replies.drop (3 * index) } = (.ok files, later)

namespace Run

theorem changed_around_settles (revision : String) (paths : List Path) :
    Settles (changedAround revision paths) (3 * paths.length) := by
  induction paths with
  | nil => exact settles_pure _
  | cons path rest ih =>
      have asks : Settles (changedAround revision (path :: rest)) (3 + (3 * rest.length + 0)) :=
        settles_bind (changed_since_settles _ _) fun _ => settles_bind ih fun _ => settles_pure _
      rwa [Nat.add_zero, Nat.add_comm 3, ← Nat.mul_succ] at asks

-- What is said of the work tree around a path follows from the replies that are still to come when it is asked.
theorem changed_since_later (given revision : String) (session between : Session) (asked : session.Asked 3 between)
    (index : Nat) (files : List Path) :
    (∃ later, (changedSince given revision).run.run
        { between with replies := between.replies.drop (3 * index) } = (.ok files, later)) ↔
      ∃ later, (changedSince given revision).run.run
        { session with replies := session.replies.drop (3 * (index + 1)) } = (.ok files, later) := by
  have later : between.replies.drop (3 * index) = session.replies.drop (3 * (index + 1)) := by
    rw [asked.replies, List.drop_drop, Nat.mul_succ, Nat.add_comm]
  have agree : Session.Asked { between with replies := between.replies.drop (3 * index) } 0
      { session with replies := session.replies.drop (3 * (index + 1)) } :=
    ⟨asked.store.symm, asked.directory.symm, asked.events.symm, later.symm⟩
  have same := (changed_since_settles given revision).determined _ _ agree
  rw [returns_iff, returns_iff, same]

theorem changed_around_iff (revision : String) (paths : List Path) (session : Session) (changed : List Path) :
    (∃ after, (changedAround revision paths).run.run session = (.ok changed, after)) ↔
      ∃ changes, session.Changes revision paths changes ∧ changed = changes.flatten := by
  induction paths generalizing session changed with
  | nil =>
      constructor
      · rintro ⟨_, done⟩
        cases done
        exact ⟨[], ⟨rfl, by simp⟩, rfl⟩
      · rintro ⟨changes, ⟨size, _⟩, rfl⟩
        rw [List.eq_nil_of_length_eq_zero size]
        exact ⟨session, rfl⟩
  | cons path rest ih =>
      constructor
      · rintro ⟨after, done⟩
        obtain ⟨files, between, step, done⟩ := bind_inversion done
        obtain ⟨others, last, loop, done⟩ := bind_inversion done
        cases done
        have asked := ((changed_since_settles path.text revision).returned session files between step).1
        obtain ⟨changes, ⟨size, each⟩, rfl⟩ := (ih between others).mp ⟨_, loop⟩
        refine ⟨files :: changes, ⟨by rw [List.length_cons, List.length_cons, size], ?_⟩, rfl⟩
        intro index given listed held found
        cases index with
        | zero =>
            cases held
            cases found
            exact ⟨between, step⟩
        | succ index =>
            exact (changed_since_later given.text revision session between asked index listed).mp
              (each index given listed held found)
      · rintro ⟨changes, ⟨size, each⟩, rfl⟩
        obtain ⟨files, others, rfl⟩ := List.exists_cons_of_length_eq_add_one size
        obtain ⟨between, step⟩ : ∃ between, (changedSince path.text revision).run.run session = (.ok files, between) :=
          each 0 path files rfl rfl
        have asked := ((changed_since_settles path.text revision).returned session files between step).1
        have later : between.Changes revision rest others := by
          refine ⟨by simpa using size, fun index given listed held found => ?_⟩
          exact (changed_since_later given.text revision session between asked index listed).mpr
            (each (index + 1) given listed held found)
        obtain ⟨last, loop⟩ := (ih between others.flatten).mpr ⟨others, later, rfl⟩
        refine ⟨last, ?_⟩
        rw [changedAround, run_bind_ok step, run_bind_ok loop]
        rfl

end Run
end Rethrow
